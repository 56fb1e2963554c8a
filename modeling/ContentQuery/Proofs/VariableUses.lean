import ContentQuery.Proofs.Rendering.Invariance
import ContentQuery.Proofs.Typing
import Mathlib.Algebra.Order.BigOperators.Group.List
import Mathlib.Algebra.Order.Ring.Nat

/-!
# Variables and their parameters

A variable that is rendered as the list of an `IN` becomes one parameter for each element of its value, and
any other variable becomes one parameter. The right operand of an `IN` is rendered as its list, and so is every
variable inside of it up to the first operator that stands between two operands.
-/

namespace ContentQuery

variable {env : Setting} {level : Nat} {ctx ctx' : Context} {node l r : Node} {op : Operator}
  {pieces : List Piece}

/-! ### Values -/

namespace Value

/-- The elements of a list; any other value stands alone. -/
def elements : Value → List Value
  | list items => items
  | v => [v]

/-- The number of elements of a list; any other value counts as one. -/
def width : Value → Nat
  | list items => items.length
  | _ => 1

theorem length_elements (v : Value) : v.elements.length = v.width := by
  cases v <;> rfl

theorem length_coerceAll {tag : TypeTag} {items results : List Value}
    (h : coerceAll tag items = .ok results) : results.length = items.length := by
  induction items generalizing results with
  | nil =>
    cases h
    rfl
  | cons v rest ih =>
    rw [coerceAll] at h
    cases head : v.coerce tag with
    | error e => simp [head] at h
    | ok w =>
      cases tail : coerceAll tag rest with
      | error e => simp [head, tail, Except.map] at h
      | ok ws =>
        simp only [head, tail, Except.map, Except.ok.injEq] at h
        subst h
        simp [ih tail]

theorem width_convert? {tag : TypeTag} {v w : Value} (h : v.convert? tag = some w) : w.width = 1 := by
  cases tag <;>
  · obtain ⟨_, -, rfl⟩ := Option.map_eq_some_iff.mp h
    rfl

theorem width_coerce {tag : TypeTag} {v w : Value} (h : v.coerce tag = .ok w) : w.width = v.width := by
  cases v with
  | null =>
    cases h
    rfl
  | list items =>
    rw [coerce] at h
    cases results : coerceAll tag items with
    | error e => simp [results, Except.map] at h
    | ok ws =>
      simp only [results, Except.map, Except.ok.injEq] at h
      subst h
      exact length_coerceAll results
  | _ =>
    simp only [coerce] at h
    split at h
    · rename_i converted
      cases h
      exact width_convert? converted
    · cases h

theorem length_foldCaseAll (items : List Value) : (foldCaseAll items).length = items.length := by
  induction items with
  | nil => rfl
  | cons v rest ih => rw [foldCaseAll, List.length_cons, ih, List.length_cons]

theorem width_foldCase (v : Value) : v.foldCase.width = v.width := by
  cases v with
  | list items => exact length_foldCaseAll items
  | _ => rfl

end Value

theorem Context.width_prepare (ctx : Context) (v : Value) : (ctx.prepare v).width = v.width := by
  unfold prepare
  split
  · exact v.width_foldCase
  · rfl

def Piece.paramName? (p : Piece) : Option String :=
  p.param?.map Prod.fst

theorem Rendered.names_ofPieces (d : Dialect) (pieces : List Piece) :
    (ofPieces d pieces).params.map Prod.fst = pieces.filterMap Piece.paramName? :=
  List.map_filterMap

namespace Script

/-- A value in the place of a list shows what its elements show. -/
theorem filterMap_placed {β : Type} {f : Piece → Option β} (words : ∀ text, f (.word text) = none)
    (inList : Bool) (item : Value → Piece) (v : Value) :
    (placed inList item v).filterMap f =
      (if inList then v.elements else [v]).filterMap fun v => f (item v) := by
  cases inList with
  | false => rfl
  | true =>
    cases v with
    | list items =>
      cases items with
      | nil => simp [placed, Value.elements, words]
      | cons v rest =>
        rw [placed, if_pos rfl, List.filterMap_cons_none (words _), List.filterMap_append,
          filterMap_separated words, List.filterMap_map, List.filterMap_cons_none (words _),
          List.filterMap_nil, List.append_nil]
        · rfl
        · simp
    | _ => simp [placed, Value.elements, List.filterMap_cons, words]

theorem paramName?_placed (inList : Bool) (name : String) (v : Value) :
    (placed inList (.param name) v).filterMap Piece.paramName? =
      List.replicate (if inList then v.width else 1) name := by
  rw [filterMap_placed (fun _ => rfl)]
  cases inList with
  | false => rfl
  | true =>
    rw [if_pos rfl, if_pos rfl, ← Value.length_elements, ← List.map_const', ← List.filterMap_eq_map]
    rfl

/-- A typed variable is no operand of a comparison with NULL. -/
theorem isTypedVariable_of_isNull (types : l.isTypedVariable = true → r.isProperty = true)
    (null : isNull env r = true) : l.isTypedVariable = false := by
  rw [← Bool.not_eq_true]
  intro typed
  have property := types typed
  cases r <;> first | cases null | cases property

/-- A typed variable is the second operand once the operands stand in their places. -/
theorem isTypedVariable_of_straight (types : l.isTypedVariable = true → r.isProperty = true)
    (straight : l.turned r = false) : l.isTypedVariable = false := by
  rw [← Bool.not_eq_true]
  intro typed
  have property := types typed
  have turned : l.turned r = true := by
    cases r with
    | identifier => cases l <;> first | rfl | cases typed
    | _ => cases property
  simp [turned] at straight

end Script

/-! ### Places of variables -/

/-- A place of a variable in a tree as it is given back. -/
structure VariableUse where
  name : String
  /-- The variable is the right operand of an `IN`. -/
  isList : Bool
  /-- The variable is rendered as the list of an `IN`. -/
  inList : Bool

/-- The variable is rendered as the list of an `IN` that it only stands inside of. -/
def VariableUse.isStray (v : VariableUse) : Bool :=
  v.inList && !v.isList

namespace Node

/-- Behind the node, the operand of an `IN` that it stands in is rendered as a list still. A comparison ends
that. -/
def keepsList : Node → Bool
  | comparison .. => false
  | conjunction _ l r => l.keepsList && r.keepsList
  | lone _ _ x | negation x => x.keepsList
  | identifier .. | constant .. | bindVariable .. | literal _ | function .. => true

mutual

/-- The variables from left to right. In which place the node stands itself is said by `isList` and
`inList`. -/
def usesIn (isList inList : Bool) : Node → List VariableUse
  | bindVariable reference _ => [⟨variableName reference, isList, inList⟩]
  | comparison op l r => usesIn false inList l ++ usesIn (op == .isIn) (op == .isIn) r
  | conjunction _ l r => usesIn false inList l ++ usesIn false (inList && l.keepsList) r
  | lone _ _ x | negation x => usesIn false inList x
  | function _ params => usesInAll params
  | identifier .. | constant .. | literal _ => []

def usesInAll : List Node → List VariableUse
  | [] => []
  | node :: rest => usesIn false false node ++ usesInAll rest

end

/-- The variables of a tree as it is given back, from left to right. -/
def variableUses (node : Node) : List VariableUse :=
  node.usesIn false false

theorem usesInAll_eq_flatMap (nodes : List Node) : usesInAll nodes = nodes.flatMap (usesIn false false) := by
  induction nodes with
  | nil => rfl
  | cons node rest ih => rw [usesInAll, ih, List.flatMap_cons]

/-- Every variable of the tree is among them, once for each of its places. -/
theorem map_name_usesIn (isList inList : Bool) (node : Node) :
    (node.usesIn isList inList).map VariableUse.name = node.variableNames := by
  induction node generalizing isList inList with
  | identifier | constant | bindVariable | literal => rfl
  | function name params ih =>
    rw [usesIn, usesInAll_eq_flatMap, variableNames, subnodes, subnodesAll_eq_flatMap, List.map_flatMap,
      List.filterMap_cons_none rfl, List.filterMap_flatMap, List.flatMap_def, List.flatMap_def,
      List.map_congr_left fun p mem => ih p mem false false]
    rfl
  | comparison op l r ihl ihr => rw [usesIn, List.map_append, ihl, ihr, variableNames_comparison]
  | conjunction op l r ihl ihr => rw [usesIn, List.map_append, ihl, ihr, variableNames_conjunction]
  | lone op side x ih => rw [usesIn, ih, variableNames_lone]
  | negation x ih => rw [usesIn, ih, variableNames_negation]

/-- The right operand of an `IN` is rendered as its list. -/
theorem inList_of_isList {isList inList : Bool} (root : isList = true → inList = true) {v : VariableUse}
    (mem : v ∈ node.usesIn isList inList) (list : v.isList = true) : v.inList = true := by
  induction node generalizing isList inList with
  | identifier | constant | literal => cases mem
  | bindVariable reference tag =>
    obtain rfl := List.mem_singleton.mp mem
    exact root list
  | function name params ih =>
    rw [usesIn, usesInAll_eq_flatMap] at mem
    obtain ⟨p, part, mem⟩ := List.mem_flatMap.mp mem
    exact ih p part (by simp) mem
  | comparison op l r ihl ihr =>
    rcases List.mem_append.mp mem with mem | mem
    · exact ihl (by simp) mem
    · exact ihr id mem
  | conjunction op l r ihl ihr =>
    rcases List.mem_append.mp mem with mem | mem
    · exact ihl (by simp) mem
    · exact ihr (by simp) mem
  | lone op side x ih | negation x ih => exact ih (by simp) mem

end Node

/-! ### Names of parameters -/

namespace Bindings

/-- The number of elements of a variable's value. -/
def width (b : Bindings) (name : String) : Nat :=
  (b name).elim 1 Value.width

/-- How many parameters a variable becomes: one for each element if it is listed, else one. -/
def paramCount (b : Bindings) (listed : VariableUse → Bool) (v : VariableUse) : Nat :=
  if listed v then b.width v.name else 1

/-- The names of the parameters that variables become. -/
def paramNames (b : Bindings) (listed : VariableUse → Bool) (uses : List VariableUse) : List String :=
  uses.flatMap fun v => List.replicate (b.paramCount listed v) v.name

end Bindings

section

variable {α β : Type} [DecidableEq β] {xs : List α} {key : α → β} {f g : α → Nat}

theorem count_flatMap_replicate (xs : List α) (key : α → β) (f : α → Nat) (b : β) :
    (xs.flatMap fun x => List.replicate (f x) (key x)).count b =
      (xs.map fun x => if key x = b then f x else 0).sum := by
  rw [List.count_flatMap]
  congr 2
  funext x
  simp [List.count_replicate]

/-- Keys are repeated as often in both lists, because of no key there is less in the first. -/
theorem eq_of_flatMap_replicate_eq
    (same : (xs.flatMap fun x => List.replicate (f x) (key x)) =
      xs.flatMap fun x => List.replicate (g x) (key x)) {x : α} (mem : x ∈ xs)
    (le : ∀ y ∈ xs, key y = key x → f y ≤ g y) : f x = g x := by
  by_contra differ
  have counts := congrArg (List.count (key x)) same
  rw [count_flatMap_replicate, count_flatMap_replicate] at counts
  refine Nat.ne_of_lt (List.sum_lt_sum _ _ (fun y at' => ?_) ⟨x, mem, ?_⟩) counts
  · split
    · rename_i shared
      exact le y at' shared
    · exact Nat.le_refl 0
  · rw [if_pos rfl, if_pos rfl]
    exact Nat.lt_of_le_of_ne (le x mem rfl) differ

/-- Two lists that repeat the same keys are equal just if they repeat each key as often, where of every key
one of them has no less than the other. -/
theorem flatMap_replicate_eq_iff
    (ordered : ∀ x ∈ xs, (∀ y ∈ xs, key y = key x → f y ≤ g y) ∨ ∀ y ∈ xs, key y = key x → g y ≤ f y) :
    (xs.flatMap fun x => List.replicate (f x) (key x)) =
      (xs.flatMap fun x => List.replicate (g x) (key x)) ↔ ∀ x ∈ xs, f x = g x := by
  constructor
  · intro same x mem
    rcases ordered x mem with le | ge
    · exact eq_of_flatMap_replicate_eq same mem le
    · exact (eq_of_flatMap_replicate_eq same.symm mem ge).symm
  · intro equal
    rw [List.flatMap_def, List.flatMap_def, List.map_congr_left fun x mem => by rw [equal x mem]]

end

/-! ### Renderings -/

/-- Behind a node that is rendered, its operand is a list still as `keepsList` says. -/
theorem Renders.inList_eq (h : Renders env level ctx node pieces ctx') :
    ctx'.inList = (ctx.inList && (node.settled env).keepsList) := by
  induction h with
  | column | fragment | constant | bindVariable => simp [Node.settled, Node.keepsList]
  | tested room straight null test inner ih =>
    rw [Node.settled_comparison, straight, null]
    exact ih
  | joined room compares straight notNull left right ihl ihr =>
    rw [Node.settled_comparison, straight, notNull]
    simp [Node.keepsList]
  | turned turned swapped ih =>
    rw [Node.settled_comparison, turned]
    exact ih
  | lone room test inner ih | negation room inner ih => exact ih
  | conjunction room joins left right ihl ihr =>
    rw [ihr, ihl, Node.settled, Node.keepsList, Bool.and_assoc]

/-- The parameters among the pieces are named after the variables of the tree that is given back. -/
theorem Renders.paramName?_eq (h : Renders env level ctx node pieces ctx')
    (bound : env.options.inlineVariables = false) (isList : Bool) :
    pieces.filterMap Piece.paramName? =
      env.bindings.paramNames VariableUse.inList ((node.settled env).usesIn isList ctx.inList) := by
  have words (text : String) : (Piece.word text).paramName? = none := rfl
  unfold Bindings.paramNames
  induction h generalizing isList with
  | column | fragment => rfl
  | constant coerced =>
    rw [Script.filterMap_placed words]
    simp [Node.settled, Node.usesIn, Piece.paramName?, Piece.param?]
  | @bindVariable level ctx reference v w tag found coerced =>
    have item : env.item (variableName reference) = .param (variableName reference) := by
      simp [Setting.item, bound]
    rw [item, Script.paramName?_placed, Context.width_prepare, Value.width_coerce coerced]
    simp [Node.settled, Node.usesIn, Bindings.paramCount, Bindings.width, found]
  | tested room straight null test inner ih =>
    rw [Node.settled_comparison, straight, null]
    simpa [words, Node.usesIn] using ih false
  | @joined level ctx ctx₁ ctx₂ op l r ps qs room compares straight notNull left right ihl ihr =>
    have front := ihl false
    have back := ihr (op == .isIn)
    rw [Operator.inList_enter] at front back
    rw [Node.settled_comparison, straight, notNull]
    simp [words, Operator.filterMap_wrap words, front, back, Node.usesIn]
  | turned turned swapped ih =>
    rw [Node.settled_comparison, turned]
    exact ih isList
  | lone room test inner ih => simpa [words, Node.settled, Node.usesIn] using ih false
  | conjunction room joins left right ihl ihr =>
    have back := ihr false
    rw [left.inList_eq] at back
    simp [words, Node.settled, Node.usesIn, ihl false, back]
  | negation room inner ih => simpa [words, Node.settled, Node.usesIn] using ih false

/-- Where variables have types only opposite properties, what is rendered as the list of an `IN` is its right
operand, and had a property opposite. -/
theorem Renders.isList_of_inList {names : List String} (h : Renders env level ctx node pieces ctx')
    (types : ∀ n ∈ node.subnodes, n.TypesParts) (below : node.listVariables ⊆ names) {isList : Bool}
    (place : node.isTypedVariable = true → ctx.inList = true →
      isList = true ∧ ∀ name ∈ node.boundName?, name ∈ names)
    {v : VariableUse} (mem : v ∈ (node.settled env).usesIn isList ctx.inList) (listed : v.inList = true) :
    v.isList = true ∧ v.name ∈ names := by
  -- Only a variable with a type is rendered, and one that has it from a property stands right behind the
  -- operator: what is set for a list reaches no other variable.
  induction h generalizing isList with
  | column | fragment | constant => cases mem
  | bindVariable found coerced =>
    obtain rfl := List.mem_singleton.mp mem
    obtain ⟨isList, among⟩ := place rfl listed
    exact ⟨isList, among _ rfl⟩
  | tested room straight null test inner ih =>
    rw [Node.forall_mem_subnodes_comparison] at types
    rw [Node.listVariables_comparison, List.append_subset, List.append_subset] at below
    rw [Node.settled_comparison, straight, null] at mem
    have untyped := Script.isTypedVariable_of_isNull types.1.1 null
    exact ih types.2.1 below.2.1 (by simp [untyped]) mem
  | @joined level ctx ctx₁ ctx₂ op l r ps qs room compares straight notNull left right ihl ihr =>
    rw [Node.forall_mem_subnodes_comparison] at types
    rw [Node.listVariables_comparison, List.append_subset, List.append_subset] at below
    rw [Node.settled_comparison, straight, notNull] at mem
    rw [Operator.inList_enter] at ihl ihr
    rcases List.mem_append.mp mem with mem | mem
    · have untyped := Script.isTypedVariable_of_straight types.1.1 straight
      exact ihl types.2.1 below.2.1 (by simp [untyped]) mem
    · refine ihr types.2.2 below.2.2 (fun typed isIn => ⟨isIn, fun name named => below.1 ?_⟩) mem
      have opposite : Node.listVariable? (.comparison op l r) = r.boundName? := by
        rw [beq_iff_eq.mp isIn, Node.listVariable?, if_pos (types.1.2 typed)]
      rw [opposite, Option.mem_toList]
      exact named
  | turned turned swapped ih =>
    rw [Node.listVariables_comparison, List.append_subset, List.append_subset] at below
    rw [Node.settled_comparison, turned] at mem
    refine ih (Node.typesParts_swap types) ?_ (by simp [Node.isTypedVariable]) mem
    rw [Node.listVariables_comparison, Node.listVariable?_swap, List.append_subset, List.append_subset]
    exact ⟨below.1, below.2.symm⟩
  | lone room test inner ih =>
    rw [Node.forall_mem_subnodes_lone] at types
    have untyped := types.1
    simp only [Node.TypesParts] at untyped
    exact ih types.2 below (by simp [untyped]) mem
  | conjunction room joins left right ihl ihr =>
    rw [Node.forall_mem_subnodes_conjunction] at types
    rw [Node.listVariables_conjunction, List.append_subset] at below
    rcases List.mem_append.mp mem with mem | mem
    · exact ihl types.2.1 below.1 (by simp [types.1.1]) mem
    · rw [← left.inList_eq] at mem
      exact ihr types.2.2 below.2 (by simp [types.1.2]) mem
  | negation room inner ih =>
    rw [Node.forall_mem_subnodes_negation] at types
    have untyped := types.1
    simp only [Node.TypesParts] at untyped
    exact ih types.2 below (by simp [untyped]) mem

end ContentQuery
