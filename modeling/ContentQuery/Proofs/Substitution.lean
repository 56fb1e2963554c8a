import ContentQuery.Dialect.Builtin
import ContentQuery.Proofs.Inlining
import ContentQuery.Proofs.Subtrees

/-!
# Constants for variables

A variable whose value is written into the query is as good as a constant that holds the value. The tree
with such constants is translated to the same query, or fails for the same reason.
-/

namespace ContentQuery

open Script

variable {env env' : Setting} {level : Nat} {ctx ctx' : Context} {op : Operator} {node l r l' r' : Node}
  {pieces : List Piece} {b : Bindings} {schema : Schema}

/-! ### Failing for the same reason -/

/-- Both errors reject a query for the same fault, or both show an inconsistency. The nodes that they
point at may differ. -/
inductive QueryError.SameKind : QueryError → QueryError → Prop
  | invalidQuery (fault : QueryFault) (node node' : Node) :
      SameKind (.invalidQuery fault node) (.invalidQuery fault node')
  | inconsistent (fault fault' : ConsistencyFault) : SameKind (.inconsistent fault) (.inconsistent fault')

abbrev SameFault (e e' : Option QueryError) : Prop :=
  Option.Rel QueryError.SameKind e e'

namespace SameFault

variable {e e' f f' : Option QueryError}

theorem or (first : SameFault e e') (second : SameFault f f') : SameFault (e.or f) (e'.or f') := by
  cases first with
  | none => exact second
  | some same => exact .some same

theorem ite {c : Prop} [Decidable c] (yes : SameFault e e') (no : SameFault f f') :
    SameFault (if c then e else f) (if c then e' else f') := by
  by_cases h : c
  · rwa [if_pos h, if_pos h]
  · rwa [if_neg h, if_neg h]

theorem invalid (fault : QueryFault) (node node' : Node) :
    SameFault (some (.invalidQuery fault node)) (some (.invalidQuery fault node')) :=
  .some (.invalidQuery fault node node')

theorem inconsistent (fault fault' : ConsistencyFault) :
    SameFault (some (.inconsistent fault)) (some (.inconsistent fault')) :=
  .some (.inconsistent fault fault')

theorem eq_none (same : SameFault none e') : e' = none := by
  cases same
  rfl

theorem exists_some {f : QueryError} (same : SameFault (some f) e') :
    ∃ f', e' = some f' ∧ f.SameKind f' := by
  cases same with
  | some kind => exact ⟨_, rfl, kind⟩

end SameFault

/-! ### The tree with constants -/

namespace Node

mutual

/-- The tree with a constant for each bound variable, of the same type. In a tree as it is built neither
has a type. -/
def substituted (b : Bindings) : Node → Node
  | bindVariable reference tag =>
    match b (variableName reference) with
    | some value => constant value tag
    | none => bindVariable reference tag
  | function name params => function name (substitutedAll b params)
  | comparison op l r => comparison op (substituted b l) (substituted b r)
  | lone op side x => lone op side (substituted b x)
  | conjunction op l r => conjunction op (substituted b l) (substituted b r)
  | negation x => negation (substituted b x)
  | node => node

def substitutedAll (b : Bindings) : List Node → List Node
  | [] => []
  | node :: rest => substituted b node :: substitutedAll b rest

end

theorem substitutedAll_eq_map (b : Bindings) (nodes : List Node) :
    substitutedAll b nodes = nodes.map (substituted b) := by
  induction nodes with
  | nil => rfl
  | cons node rest ih => rw [substitutedAll, ih, List.map_cons]

theorem substituted_of_bound {reference : String} {value : Value} (tag : Option TypeTag)
    (bound : b (variableName reference) = some value) :
    (bindVariable reference tag).substituted b = constant value tag := by
  simp only [substituted, bound]

def IsBound (b : Bindings) (node : Node) : Prop :=
  ∀ name ∈ node.variableNames, (b name).isSome

theorem IsBound.value {reference : String} {tag : Option TypeTag}
    (h : (bindVariable reference tag).IsBound b) :
    ∃ value, b (variableName reference) = some value :=
  Option.isSome_iff_exists.mp (h (variableName reference) (by simp [variableNames, subnodes, boundName?]))

theorem IsBound.left_right (parts : node.variableNames = l.variableNames ++ r.variableNames)
    (h : node.IsBound b) : l.IsBound b ∧ r.IsBound b := by
  unfold IsBound at h
  rw [parts, List.forall_mem_append] at h
  exact h

theorem IsBound.typed (schema : Schema) (h : node.IsBound b) : (node.typed schema).IsBound b := by
  unfold IsBound
  rw [variableNames_typed]
  exact h

theorem isReference_substituted (b : Bindings) (node : Node) :
    (node.substituted b).isReference = node.isReference := by
  cases node with
  | bindVariable reference tag =>
    simp only [substituted]
    split <;> rfl
  | _ => rfl

theorem turned_substituted (b : Bindings) (l r : Node) :
    (l.substituted b).turned (r.substituted b) = l.turned r := by
  simp only [turned, isReference_substituted]

/-! ### Resolution -/

theorem propertyTag?_substituted (b : Bindings) (node : Node) :
    (node.substituted b).propertyTag? = node.propertyTag? := by
  cases node with
  | bindVariable reference tag =>
    simp only [substituted]
    split <;> rfl
  | _ => rfl

theorem adopt_substituted (b : Bindings) (tag : Option TypeTag) (node : Node) :
    (node.substituted b).adopt tag = (node.adopt tag).substituted b := by
  cases node with
  | constant value old => cases old <;> rfl
  | bindVariable reference old =>
    cases bound : b (variableName reference) <;> cases old <;> simp [substituted, adopt, bound]
  | _ => rfl

theorem typed_substituted (schema : Schema) (b : Bindings) (node : Node) :
    (node.substituted b).typed schema = (node.typed schema).substituted b := by
  induction node with
  | identifier name tag => cases tag <;> rfl
  | constant | literal => rfl
  | bindVariable reference tag =>
    cases bound : b (variableName reference) <;> simp [substituted, Node.typed, bound]
  | function name params ih =>
    simp only [substituted, Node.typed, substitutedAll_eq_map, typedAll_eq_map, List.map_map]
    exact congrArg (function name) (List.map_congr_left ih)
  | comparison op l r ihl ihr =>
    simp only [substituted, Node.typed, ihl, ihr, propertyTag?_substituted, adopt_substituted]
  | lone op side x ih | negation x ih => simp only [substituted, Node.typed, ih]
  | conjunction op l r ihl ihr => simp only [substituted, Node.typed, ihl, ihr]

theorem sameFault_unlessDeep {limit : Nat} {node node' : Node}
    {below below' : Trail QueryError PropertyFound}
    (same : SameFault below.fault? below'.fault?) :
    SameFault (unlessDeep limit level node below).fault? (unlessDeep limit level node' below').fault? := by
  unfold unlessDeep
  by_cases deep : limit < level
  · rw [if_pos deep, if_pos deep]
    exact .invalid (.tooDeep limit) node node'
  · rwa [if_neg deep, if_neg deep]

theorem sameFault_lookups (schema : Schema) (limit : Nat) (b : Bindings) (node : Node) (level : Nat) :
    SameFault (node.lookups schema limit level).fault?
      ((node.substituted b).lookups schema limit level).fault? := by
  induction node generalizing level with
  | identifier name tag =>
    cases tag with
    | some tag => exact .none
    | none =>
      cases known : schema name with
      | some tag =>
        simp only [substituted, lookups, known]
        exact .none
      | none =>
        simp only [substituted, lookups, known]
        exact .invalid (.unknownProperty name) (identifier name none) (identifier name none)
  | constant | literal => exact .none
  | bindVariable reference tag =>
    simp only [substituted]
    split <;> exact .none
  | function name params ih =>
    simp only [substituted, lookups, substitutedAll_eq_map]
    refine sameFault_unlessDeep ?_
    induction params with
    | nil => exact .none
    | cons p rest others =>
      obtain ⟨first, later⟩ := List.forall_mem_cons.mp ih
      rw [List.map_cons, lookupsAll, lookupsAll, Trail.fault?_append, Trail.fault?_append]
      exact (first (level + 1)).or (others later)
  | comparison op l r ihl ihr | conjunction op l r ihl ihr =>
    simp only [substituted, lookups]
    refine sameFault_unlessDeep ?_
    rw [Trail.fault?_append, Trail.fault?_append]
    exact (ihl (level + 1)).or (ihr (level + 1))
  | lone op side x ih | negation x ih =>
    simp only [substituted, lookups]
    exact sameFault_unlessDeep (ih (level + 1))

end Node

/-! ### Rendering -/

namespace Script

theorem isNull_substituted (env' : Setting) (bound : node.IsBound env.bindings) :
    isNull env' (node.substituted env.bindings) = isNull env node := by
  cases node with
  | bindVariable reference tag =>
    obtain ⟨value, found⟩ := bound.value
    rw [Node.substituted_of_bound tag found]
    simp only [isNull, found]
  | _ => rfl

theorem sameFault_variable {reference : String} (tag : Option TypeTag)
    (bound : (Node.bindVariable reference tag).IsBound env.bindings) :
    SameFault (firstFault? env level (.bindVariable reference tag))
      (firstFault? env' level ((Node.bindVariable reference tag).substituted env.bindings)) := by
  obtain ⟨value, found⟩ := bound.value
  rw [Node.substituted_of_bound tag found]
  cases tag with
  | none =>
    exact .inconsistent (.untypedValue (.bindVariable reference none)) (.untypedValue (.constant value none))
  | some type =>
    simp only [firstFault?, ofNode, ofVariable, found, fault?_ofValue]
    cases value.coerce type with
    | error mismatch =>
      exact .invalid (.typeMismatch mismatch) (.bindVariable reference type) (.constant value type)
    | ok w => exact .none

theorem sameFault_operands (op : Operator) (null : isNull env' r' = isNull env r)
    (left : SameFault (firstFault? env level l) (firstFault? env' level l'))
    (right : SameFault (firstFault? env level r) (firstFault? env' level r')) :
    SameFault
      (if isNull env r then
        if (nullTest? op).isSome then firstFault? env level l
        else some (.invalidQuery (.nullOperand op) (.comparison op l r))
      else (firstFault? env level l).or (firstFault? env level r))
      (if isNull env' r' then
        if (nullTest? op).isSome then firstFault? env' level l'
        else some (.invalidQuery (.nullOperand op) (.comparison op l' r'))
      else (firstFault? env' level l').or (firstFault? env' level r')) := by
  rw [null]
  exact .ite (.ite left (.invalid _ _ _)) (left.or right)

/-- The constants are faulty where the variables are. -/
theorem sameFault_substituted (env env' : Setting)
    (depth : env'.options.maxDepth = env.options.maxDepth) (level : Nat) (bound : node.IsBound env.bindings) :
    SameFault (firstFault? env level node)
      (firstFault? env' level (node.substituted env.bindings)) := by
  induction node generalizing level with
  | identifier name tag =>
    cases tag with
    | none =>
      exact .inconsistent (.untypedIdentifier (.identifier name none))
        (.untypedIdentifier (.identifier name none))
    | some tag => exact .none
  | constant value tag =>
    cases tag with
    | none =>
      exact .inconsistent (.untypedValue (.constant value none)) (.untypedValue (.constant value none))
    | some type =>
      simp only [Node.substituted, firstFault?, ofNode, fault?_ofValue]
      cases value.coerce type with
      | error mismatch =>
        exact .invalid (.typeMismatch mismatch) (.constant value type) (.constant value type)
      | ok w => exact .none
  | bindVariable reference tag => exact sameFault_variable tag bound
  | literal text => exact .none
  | function name params => exact .invalid (.unsupportedFunction name) _ _
  | comparison op l r ihl ihr =>
    obtain ⟨boundLeft, boundRight⟩ := bound.left_right (Node.variableNames_comparison op l r)
    have left := ihl (level + 1) boundLeft
    have right := ihr (level + 1) boundRight
    rw [Node.substituted, firstFault?_comparison, firstFault?_comparison, Node.turned_substituted, depth]
    refine .ite (.invalid _ _ _) (.ite (.invalid _ _ _) ?_)
    cases l.turned r with
    | true => exact sameFault_operands op.reverse (isNull_substituted env' boundLeft) right left
    | false => exact sameFault_operands op (isNull_substituted env' boundRight) left right
  | lone op side x ih =>
    have inner := ih (level + 1) bound
    rw [Node.substituted, firstFault?_lone, firstFault?_lone, depth]
    exact .ite (.invalid _ _ _) (.ite (.invalid _ _ _) (.ite inner (.invalid _ _ _)))
  | conjunction op l r ihl ihr =>
    obtain ⟨boundLeft, boundRight⟩ := bound.left_right (Node.variableNames_conjunction op l r)
    have left := ihl (level + 1) boundLeft
    have right := ihr (level + 1) boundRight
    rw [Node.substituted, firstFault?_conjunction, firstFault?_conjunction, depth]
    exact .ite (.invalid _ _ _) (.ite (.inconsistent _ _) (left.or right))
  | negation x ih =>
    rw [Node.substituted, firstFault?_negation, firstFault?_negation, depth]
    exact .ite (.invalid _ _ _) (ih (level + 1) bound)

/-- The constants are written as the values of the variables are, where those are inlined. -/
theorem renders_substituted (env env' : Setting)
    (depth : env'.options.maxDepth = env.options.maxDepth)
    (inlined : env.options.inlineVariables = true) (bound : node.IsBound env.bindings)
    (h : Renders env level ctx node pieces ctx') :
    Renders env' level ctx (node.substituted env.bindings) pieces ctx' := by
  induction h with
  | column level ctx name tag => exact .column level ctx name tag
  | fragment level ctx text => exact .fragment level ctx text
  | constant coerced => exact .constant coerced
  | @bindVariable level ctx reference v w tag found coerced =>
    rw [Node.substituted_of_bound _ found]
    have item : env.item (variableName reference) = .constant := by
      rw [Setting.item, inlined]
      rfl
    rw [item]
    exact .constant coerced
  | @tested level ctx ctx' op l r keyword pieces room straight null test inner ih =>
    obtain ⟨boundLeft, boundRight⟩ := bound.left_right (Node.variableNames_comparison op l r)
    exact .tested (depth ▸ room) ((Node.turned_substituted ..).trans straight)
      ((isNull_substituted env' boundRight).trans null) test (ih boundLeft)
  | @joined level ctx ctx₁ ctx₂ op l r ps qs room compares straight notNull left right ihl ihr =>
    obtain ⟨boundLeft, boundRight⟩ := bound.left_right (Node.variableNames_comparison op l r)
    exact .joined (depth ▸ room) compares ((Node.turned_substituted ..).trans straight)
      ((isNull_substituted env' boundRight).trans notNull) (ihl boundLeft) (ihr boundRight)
  | @turned level ctx ctx' op l r pieces turned swapped ih =>
    obtain ⟨boundLeft, boundRight⟩ := bound.left_right (Node.variableNames_comparison op l r)
    have boundSwapped : (Node.comparison op.reverse r l).IsBound env.bindings := by
      unfold Node.IsBound
      rw [Node.variableNames_comparison, List.forall_mem_append]
      exact ⟨boundRight, boundLeft⟩
    exact .turned ((Node.turned_substituted ..).trans turned) (ih boundSwapped)
  | lone room test inner ih => exact .lone (depth ▸ room) test (ih bound)
  | @conjunction level ctx ctx₁ ctx₂ op l r ps qs room joins left right ihl ihr =>
    obtain ⟨boundLeft, boundRight⟩ := bound.left_right (Node.variableNames_conjunction op l r)
    exact .conjunction (depth ▸ room) joins (ihl boundLeft) (ihr boundRight)
  | negation room inner ih => exact .negation (depth ▸ room) (ih bound)

end Script

/-! ### Translation -/

namespace Engine

theorem sameFault_fault? (e : Engine) (schema : Schema) (b' : Bindings) (flag : Bool)
    (bound : node.IsBound b) :
    SameFault ((e.inlining true).fault? schema b node)
      ((e.inlining flag).fault? schema b' (node.substituted b)) := by
  have resolution := Node.sameFault_lookups schema e.options.maxDepth b node 0
  have rendering : SameFault (firstFault? ⟨b, (e.inlining true).options⟩ 0 (node.typed schema))
      (firstFault? ⟨b', (e.inlining flag).options⟩ 0 ((node.typed schema).substituted b)) :=
    sameFault_substituted ⟨b, (e.inlining true).options⟩ ⟨b', (e.inlining flag).options⟩ rfl 0
      (bound.typed schema)
  rw [← Node.typed_substituted] at rendering
  exact resolution.or rendering

/-- With inlining, a tree whose variables are all bound is translated like the tree that has constants
in the places of the variables: to the same query, or to an error of the same kind. -/
theorem translate_substituted (e : Engine) (schema : Schema) (b' : Bindings) (flag : Bool)
    (bound : ∀ name ∈ node.variableNames, (b name).isSome) :
    match (e.inlining true).translate schema b node,
      (e.inlining flag).translate schema b' (node.substituted b) with
    | .ok r, .ok r' => r = r'
    | .error f, .error f' => f.SameKind f'
    | _, _ => False := by
  have faults := sameFault_fault? e schema b' flag bound
  cases outcome : (e.inlining true).translate schema b node with
  | error f =>
    rw [translate_eq_error_iff.mp outcome] at faults
    obtain ⟨f', other, kind⟩ := faults.exists_some
    rw [translate_eq_error_iff.mpr other]
    exact kind
  | ok r =>
    rw [exists_translate_eq_ok_iff.mp ⟨r, outcome⟩] at faults
    obtain ⟨r', succeeded⟩ := exists_translate_eq_ok_iff.mpr faults.eq_none
    rw [succeeded]
    obtain ⟨pieces, ctx, follows, rfl⟩ := renders_of_translate outcome
    obtain ⟨others, ctx', follows', rfl⟩ := renders_of_translate succeeded
    have constants : Renders ⟨b', (e.inlining flag).options⟩ 0 {} ((node.typed schema).substituted b)
        pieces ctx :=
      renders_substituted ⟨b, (e.inlining true).options⟩ ⟨b', (e.inlining flag).options⟩ rfl rfl
        (Node.IsBound.typed schema bound) follows
    rw [← Node.typed_substituted] at constants
    obtain ⟨rfl, -⟩ := renders_unique constants follows'
    rfl

/-- A list, and a variable bound to NULL in front of its property. -/
theorem translate_substituted_list :
    let tree : Node := .conjunction .and
      (.comparison .isIn (.identifier "name" none) (.bindVariable ":names" none))
      (.comparison .ne (.bindVariable "limit" none) (.identifier "name" none))
    let b : Bindings := fun name =>
      if name = "names" then some (.list [.str "Ada", .str "O'Hara"]) else some .null
    let e : Engine := ⟨.ansi, {}⟩
    (∀ name ∈ tree.variableNames, (b name).isSome) ∧
      ∃ r, (e.inlining true).translate (fun _ => some .string) b tree = .ok r ∧
        (e.inlining false).translate (fun _ => some .string) Bindings.empty (tree.substituted b) =
          .ok r := by
  intro tree b e
  have bound : ∀ name ∈ tree.variableNames, (b name).isSome := by
    intro name _
    by_cases h : name = "names" <;> simp [b, h]
  have same := translate_substituted e (fun _ => some .string) Bindings.empty false bound
  obtain ⟨r, h⟩ : ∃ r, (e.inlining true).translate (fun _ => some .string) b tree = .ok r := ⟨_, rfl⟩
  obtain ⟨r', h'⟩ : ∃ r', (e.inlining false).translate (fun _ => some .string) Bindings.empty
      (tree.substituted b) = .ok r' := ⟨_, rfl⟩
  rw [h, h'] at same
  exact ⟨bound, r, h, same ▸ h'⟩

end Engine

end ContentQuery
