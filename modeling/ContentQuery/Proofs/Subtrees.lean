import ContentQuery.Resolution

/-!
# Parts of a tree

What a tree holds, in the order in which it is read. Resolution changes nothing of it but the types.
-/

namespace ContentQuery.Node

mutual

/-- The nodes of a tree from left to right, each before its parts. -/
def subnodes : Node → List Node
  | function name params => function name params :: subnodesAll params
  | comparison op l r => comparison op l r :: (subnodes l ++ subnodes r)
  | lone op side x => lone op side x :: subnodes x
  | conjunction op l r => conjunction op l r :: (subnodes l ++ subnodes r)
  | negation x => negation x :: subnodes x
  | node => [node]

def subnodesAll : List Node → List Node
  | [] => []
  | node :: rest => subnodes node ++ subnodesAll rest

end

theorem subnodesAll_eq_flatMap (nodes : List Node) : subnodesAll nodes = nodes.flatMap subnodes := by
  induction nodes with
  | nil => rfl
  | cons node rest ih => rw [subnodesAll, ih, List.flatMap_cons]

section

variable {P : Node → Prop} {l r x : Node}

theorem forall_mem_subnodes_function {name : String} {params : List Node} :
    (∀ n ∈ (function name params).subnodes, P n) ↔
      P (function name params) ∧ ∀ p ∈ params, ∀ n ∈ p.subnodes, P n := by
  rw [subnodes, subnodesAll_eq_flatMap, List.forall_mem_cons]
  refine and_congr_right fun _ => ⟨fun h p part n mem => h n (List.mem_flatMap_of_mem part mem), ?_⟩
  intro h n mem
  obtain ⟨p, part, mem⟩ := List.mem_flatMap.mp mem
  exact h p part n mem

theorem forall_mem_subnodes_comparison {op : Operator} :
    (∀ n ∈ (comparison op l r).subnodes, P n) ↔
      P (comparison op l r) ∧ (∀ n ∈ l.subnodes, P n) ∧ ∀ n ∈ r.subnodes, P n := by
  rw [subnodes, List.forall_mem_cons, List.forall_mem_append]

theorem forall_mem_subnodes_lone {op : Operator} {side : Side} :
    (∀ n ∈ (lone op side x).subnodes, P n) ↔ P (lone op side x) ∧ ∀ n ∈ x.subnodes, P n := by
  rw [subnodes, List.forall_mem_cons]

theorem forall_mem_subnodes_conjunction {op : Connective} :
    (∀ n ∈ (conjunction op l r).subnodes, P n) ↔
      P (conjunction op l r) ∧ (∀ n ∈ l.subnodes, P n) ∧ ∀ n ∈ r.subnodes, P n := by
  rw [subnodes, List.forall_mem_cons, List.forall_mem_append]

theorem forall_mem_subnodes_negation :
    (∀ n ∈ (negation x).subnodes, P n) ↔ P (negation x) ∧ ∀ n ∈ x.subnodes, P n := by
  rw [subnodes, List.forall_mem_cons]

end

theorem mem_subnodes_self (node : Node) : node ∈ node.subnodes := by
  cases node <;> simp [subnodes]

def boundName? : Node → Option String
  | bindVariable reference _ => some (variableName reference)
  | _ => none

def fragment? : Node → Option String
  | literal text => some text
  | _ => none

def isProperty : Node → Bool
  | identifier .. => true
  | _ => false

/-- The name of the variable that stands opposite a property in an `IN` comparison. -/
def listVariable? : Node → Option String
  | comparison .isIn l r =>
    if l.isProperty then r.boundName? else if r.isProperty then l.boundName? else none
  | _ => none

def variableNames (node : Node) : List String :=
  node.subnodes.filterMap boundName?

def fragments (node : Node) : List String :=
  node.subnodes.filterMap fragment?

/-- The names of the variables that stand opposite a property in an `IN` comparison. -/
def listVariables (node : Node) : List String :=
  node.subnodes.filterMap listVariable?

section

variable (op : Operator) (connective : Connective) (side : Side) (l r x : Node)

@[simp] theorem fragments_comparison : (comparison op l r).fragments = l.fragments ++ r.fragments :=
  List.filterMap_append

@[simp] theorem fragments_lone : (lone op side x).fragments = x.fragments := rfl

@[simp] theorem fragments_conjunction :
    (conjunction connective l r).fragments = l.fragments ++ r.fragments :=
  List.filterMap_append

@[simp] theorem fragments_negation : (negation x).fragments = x.fragments := rfl

theorem variableNames_comparison :
    (comparison op l r).variableNames = l.variableNames ++ r.variableNames :=
  List.filterMap_append

theorem variableNames_conjunction :
    (conjunction connective l r).variableNames = l.variableNames ++ r.variableNames :=
  List.filterMap_append

theorem variableNames_lone : (lone op side x).variableNames = x.variableNames := rfl

theorem variableNames_negation : (negation x).variableNames = x.variableNames := rfl

theorem listVariables_comparison : (comparison op l r).listVariables =
    (listVariable? (comparison op l r)).toList ++ (l.listVariables ++ r.listVariables) := by
  rw [listVariables, subnodes, List.filterMap_cons, List.filterMap_append]
  cases listVariable? (comparison op l r) <;> rfl

theorem listVariables_conjunction :
    (conjunction connective l r).listVariables = l.listVariables ++ r.listVariables :=
  List.filterMap_append

theorem listVariable?_swap : listVariable? (comparison op.reverse r l) = listVariable? (comparison op l r) := by
  cases op with
  | isIn =>
    simp only [Operator.reverse, listVariable?]
    cases l <;> cases r <;> rfl
  | _ => rfl

end

/-! ### Resolution -/

/-- A function that does not look at the types of constants and variables. -/
theorem apply_adopt {β : Type} {f : Node → β}
    (atConstant : ∀ value old new, f (constant value old) = f (constant value new))
    (atVariable : ∀ reference old new, f (bindVariable reference old) = f (bindVariable reference new))
    (tag : Option TypeTag) (node : Node) : f (node.adopt tag) = f node := by
  cases node with
  | constant value old =>
    cases old with
    | none => exact atConstant value tag none
    | some _ => rfl
  | bindVariable reference old =>
    cases old with
    | none => exact atVariable reference tag none
    | some _ => rfl
  | _ => rfl

theorem adopt_none (node : Node) : node.adopt none = node := by
  cases node with
  | constant value tag => cases tag <;> rfl
  | bindVariable reference tag => cases tag <;> rfl
  | _ => rfl

/-- What can be read off a node whatever types its operands have. -/
structure UntypedReading {β : Type} (f : Node → Option β) : Prop where
  typed : ∀ schema node, f (node.typed schema) = f node
  adopt : ∀ tag node, f (node.adopt tag) = f node

theorem untyped_boundName? : UntypedReading boundName? where
  typed schema node := by
    cases node with
    | identifier name tag => cases tag <;> rfl
    | _ => rfl
  adopt := apply_adopt (fun _ _ _ => rfl) (fun _ _ _ => rfl)

theorem untyped_fragment? : UntypedReading fragment? where
  typed schema node := by
    cases node with
    | identifier name tag => cases tag <;> rfl
    | _ => rfl
  adopt := apply_adopt (fun _ _ _ => rfl) (fun _ _ _ => rfl)

section

variable {x : Node} {schema : Schema}

theorem isProperty_typed : (x.typed schema).isProperty = x.isProperty := by
  cases x with
  | identifier name tag => cases tag <;> rfl
  | _ => rfl

theorem isProperty_adopt (tag : Option TypeTag) : (x.adopt tag).isProperty = x.isProperty :=
  apply_adopt (fun _ _ _ => rfl) (fun _ _ _ => rfl) tag x

end

theorem untyped_listVariable? : UntypedReading listVariable? where
  typed schema node := by
    cases node with
    | identifier name tag => cases tag <;> rfl
    | comparison op l r =>
      simp only [Node.typed]
      cases op with
      | isIn =>
        simp only [listVariable?, isProperty_adopt, isProperty_typed, untyped_boundName?.adopt,
          untyped_boundName?.typed]
      | _ => rfl
    | _ => rfl
  adopt := apply_adopt (fun _ _ _ => rfl) (fun _ _ _ => rfl)

section

variable {β : Type} {f : Node → Option β}

theorem UntypedReading.filterMap_adopt (h : UntypedReading f) (tag : Option TypeTag) (node : Node) :
    (node.adopt tag).subnodes.filterMap f = node.subnodes.filterMap f := by
  have same := h.adopt tag node
  cases node with
  | constant value old => cases old <;> simp_all [Node.adopt, subnodes, List.filterMap_cons]
  | bindVariable reference old => cases old <;> simp_all [Node.adopt, subnodes, List.filterMap_cons]
  | _ => rfl

theorem UntypedReading.filterMap_typed (h : UntypedReading f) (schema : Schema) (node : Node) :
    (node.typed schema).subnodes.filterMap f = node.subnodes.filterMap f := by
  have root := h.typed schema node
  induction node with
  | identifier name tag =>
    cases tag with
    | none =>
      simp only [Node.typed] at root
      simp only [Node.typed, subnodes, List.filterMap_cons, root]
    | some _ => rfl
  | constant | bindVariable | literal => rfl
  | function name params ih =>
    have parts : ((params.map (Node.typed schema)).flatMap subnodes).filterMap f =
        (params.flatMap subnodes).filterMap f := by
      rw [List.flatMap_map, List.filterMap_flatMap, List.filterMap_flatMap, List.flatMap_def,
        List.flatMap_def, List.map_congr_left fun p mem => ih p mem (h.typed schema p)]
    simp only [Node.typed] at root
    simp only [Node.typed, subnodes, List.filterMap_cons, root]
    rw [typedAll_eq_map, subnodesAll_eq_flatMap, subnodesAll_eq_flatMap, parts]
  | comparison op l r ihl ihr =>
    simp only [Node.typed] at root
    simp only [Node.typed, subnodes, List.filterMap_cons, List.filterMap_append, root, h.filterMap_adopt,
      ihl (h.typed schema l), ihr (h.typed schema r)]
  | lone op side x ih =>
    simp only [Node.typed] at root
    simp only [Node.typed, subnodes, List.filterMap_cons, root, ih (h.typed schema x)]
  | conjunction op l r ihl ihr =>
    simp only [Node.typed] at root
    simp only [Node.typed, subnodes, List.filterMap_cons, List.filterMap_append, root,
      ihl (h.typed schema l), ihr (h.typed schema r)]
  | negation x ih =>
    simp only [Node.typed] at root
    simp only [Node.typed, subnodes, List.filterMap_cons, root, ih (h.typed schema x)]

end

theorem variableNames_typed (schema : Schema) (node : Node) :
    (node.typed schema).variableNames = node.variableNames :=
  untyped_boundName?.filterMap_typed schema node

theorem fragments_typed (schema : Schema) (node : Node) :
    (node.typed schema).fragments = node.fragments :=
  untyped_fragment?.filterMap_typed schema node

theorem listVariables_typed (schema : Schema) (node : Node) :
    (node.typed schema).listVariables = node.listVariables :=
  untyped_listVariable?.filterMap_typed schema node

end ContentQuery.Node
