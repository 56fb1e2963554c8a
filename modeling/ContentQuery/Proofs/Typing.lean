import ContentQuery.Node.Build
import ContentQuery.Proofs.Subtrees

/-!
# Types in a tree

Which nodes of a tree have types: after construction only forced integers, and after resolution also
properties and the constants and variables that stand opposite them.
-/

namespace ContentQuery.Node

variable {node l r x : Node} {op : Operator} {schema : Schema}

/-! ### Fresh trees -/

/-- No resolution has typed the tree: its only types are those of forced integers. -/
def IsFresh (node : Node) : Prop :=
  ∀ n ∈ node.subnodes, n.tag? = none ∨ ∃ value, n = constant value (some .forceInteger)

namespace IsFresh

theorem root (h : node.IsFresh) :
    node.tag? = none ∨ ∃ value, node = constant value (some .forceInteger) :=
  h node node.mem_subnodes_self

theorem untyped_identifier {name : String} {tag : Option TypeTag} (h : (identifier name tag).IsFresh) :
    tag = none := by
  rcases h.root with untyped | ⟨value, wrong⟩
  · exact untyped
  · cases wrong

theorem untyped_variable {reference : String} {tag : Option TypeTag}
    (h : (bindVariable reference tag).IsFresh) : tag = none := by
  rcases h.root with untyped | ⟨value, wrong⟩
  · exact untyped
  · cases wrong

theorem type_constant {value : Value} {tag : Option TypeTag} (h : (constant value tag).IsFresh) :
    tag = none ∨ tag = some .forceInteger := by
  rcases h.root with untyped | ⟨value, forced⟩
  · exact .inl untyped
  · cases forced
    exact .inr rfl

theorem left_right (parts : node.subnodes = node :: (l.subnodes ++ r.subnodes)) (h : node.IsFresh) :
    l.IsFresh ∧ r.IsFresh := by
  unfold IsFresh at h
  rw [parts, List.forall_mem_cons, List.forall_mem_append] at h
  exact h.2

theorem inner (parts : node.subnodes = node :: x.subnodes) (h : node.IsFresh) : x.IsFresh := by
  unfold IsFresh at h
  rw [parts, List.forall_mem_cons] at h
  exact h.2

theorem params {name : String} {params : List Node} (h : (function name params).IsFresh) :
    ∀ p ∈ params, p.IsFresh := by
  unfold IsFresh at h
  rw [subnodes, subnodesAll_eq_flatMap, List.forall_mem_cons] at h
  exact fun p part n mem => h.2 n (List.mem_flatMap_of_mem part mem)

theorem of_parts {rest : List Node} (parts : node.subnodes = node :: rest) (untyped : node.tag? = none)
    (below : ∀ n ∈ rest, n.tag? = none ∨ ∃ value, n = Node.constant value (some .forceInteger)) :
    node.IsFresh := by
  unfold IsFresh
  rw [parts, List.forall_mem_cons]
  exact ⟨.inl untyped, below⟩

end IsFresh

theorem eq_of_unlessBlank {part : NamePart} {text : String} (h : unlessBlank part text x = .ok node) :
    node = x := by
  unfold unlessBlank at h
  split at h
  · cases h
  · exact (Except.ok.inj h).symm

/-- The trees that the constructors give. -/
inductive Built : Node → Prop
  | name {encoded : String} {node : Node} (h : ofName encoded = .ok node) : Built node
  | value (v : Value) : Built (ofValue v)
  | integer (v : Value) : Built (ofInteger v)
  | reference {reference : String} {node : Node} (h : ofReference reference = .ok node) : Built node
  | literal {text : String} {node : Node} (h : ofLiteral text = .ok node) : Built node
  | call {name : String} {params : List Node} {node : Node} (parts : ∀ p ∈ params, Built p)
      (h : call name params = .ok node) : Built node
  | compare {op : Operator} {l r : Option Node} {node : Node} (left : ∀ x ∈ l, Built x)
      (right : ∀ x ∈ r, Built x) (h : compare? op l r = .ok node) : Built node
  | conjoin {op : Operator} {l : Option Node} {r node : Node} (left : ∀ x ∈ l, Built x)
      (right : Built r) (h : conjoin op l r = .ok node) : Built node

/-- No constructor types anything but a forced integer. -/
theorem Built.isFresh (h : node.Built) : node.IsFresh := by
  induction h with
  | name h | reference h | literal h =>
    cases eq_of_unlessBlank h
    exact .of_parts rfl rfl (by simp)
  | value v => exact .of_parts rfl rfl (by simp)
  | integer v => simp [IsFresh, ofInteger, subnodes]
  | call parts h ih =>
    cases eq_of_unlessBlank h
    refine .of_parts rfl rfl ?_
    rw [subnodesAll_eq_flatMap]
    intro n mem
    obtain ⟨p, part, mem⟩ := List.mem_flatMap.mp mem
    exact ih p part n mem
  | @compare op l r node left right h ihl ihr =>
    cases l with
    | some l =>
      cases r with
      | some r =>
        cases h
        exact .of_parts rfl rfl (List.forall_mem_append.mpr ⟨ihl l rfl, ihr r rfl⟩)
      | none =>
        cases h
        exact .of_parts rfl rfl (ihl l rfl)
    | none =>
      cases r with
      | some r =>
        cases h
        exact .of_parts rfl rfl (ihr r rfl)
      | none => cases h
  | @conjoin op l r node left right h ihl ihr =>
    cases l with
    | some l =>
      cases op <;> cases h <;>
        exact .of_parts rfl rfl (List.forall_mem_append.mpr ⟨ihl l rfl, ihr⟩)
    | none =>
      cases op <;> cases h
      exact .of_parts rfl rfl ihr

/-! ### Types opposite properties -/

def isTypedVariable : Node → Bool
  | bindVariable _ (some _) => true
  | _ => false

/-- A variable among the parts of the node has a type only opposite a property. -/
def TypesParts : Node → Prop
  | comparison _ l r =>
    (l.isTypedVariable = true → r.isProperty = true) ∧ (r.isTypedVariable = true → l.isProperty = true)
  | lone _ _ x | negation x => x.isTypedVariable = false
  | conjunction _ l r => l.isTypedVariable = false ∧ r.isTypedVariable = false
  | function _ params => ∀ p ∈ params, p.isTypedVariable = false
  | identifier .. | constant .. | bindVariable .. | literal _ => True

/-- Variables have types only opposite properties. A tree as it is built has no typed variable
(`Built.isFresh`), and resolution types no others (`TypesOpposite.typed`). -/
structure TypesOpposite (node : Node) : Prop where
  root : node.isTypedVariable = false
  parts : ∀ n ∈ node.subnodes, n.TypesParts

/-- A fresh tree has no typed variable at all. -/
theorem IsFresh.typesOpposite (h : node.IsFresh) : node.TypesOpposite := by
  have untyped {n : Node} (fresh : n.IsFresh) : n.isTypedVariable = false := by
    cases n with
    | bindVariable reference tag =>
      cases fresh.untyped_variable
      rfl
    | _ => rfl
  refine ⟨untyped h, ?_⟩
  induction node with
  | identifier | constant | bindVariable | literal => simp [subnodes, TypesParts]
  | function name params ih =>
    rw [forall_mem_subnodes_function]
    exact ⟨fun p part => untyped (h.params p part), fun p part => ih p part (h.params p part)⟩
  | comparison op l r ihl ihr =>
    obtain ⟨left, right⟩ := h.left_right rfl
    rw [forall_mem_subnodes_comparison]
    exact ⟨by simp [TypesParts, untyped left, untyped right], ihl left, ihr right⟩
  | lone op side x ih =>
    have inner := h.inner rfl
    rw [forall_mem_subnodes_lone]
    exact ⟨untyped inner, ih inner⟩
  | conjunction op l r ihl ihr =>
    obtain ⟨left, right⟩ := h.left_right rfl
    rw [forall_mem_subnodes_conjunction]
    exact ⟨⟨untyped left, untyped right⟩, ihl left, ihr right⟩
  | negation x ih =>
    have inner := h.inner rfl
    rw [forall_mem_subnodes_negation]
    exact ⟨untyped inner, ih inner⟩

/-! ### What resolution does to it -/

theorem isTypedVariable_typed : (x.typed schema).isTypedVariable = x.isTypedVariable := by
  cases x with
  | identifier name tag => cases tag <;> rfl
  | _ => rfl

/-- A variable that adopts a type has a property opposite. -/
theorem isProperty_of_adopt (h : (l.adopt r.propertyTag?).isTypedVariable = true)
    (old : l.isTypedVariable = true → r.isProperty = true) : r.isProperty = true := by
  cases r with
  | identifier name tag => rfl
  | _ =>
    refine old ?_
    cases l with
    | constant value tag => cases tag <;> cases h
    | bindVariable reference tag => cases tag <;> exact h
    | _ => cases h

/-- Which operand stands first is of no account. -/
theorem typesParts_swap {op' : Operator} (h : ∀ n ∈ (comparison op l r).subnodes, n.TypesParts) :
    ∀ n ∈ (comparison op' r l).subnodes, n.TypesParts := by
  rw [forall_mem_subnodes_comparison] at h ⊢
  obtain ⟨⟨left, right⟩, below, beside⟩ := h
  exact ⟨⟨right, left⟩, beside, below⟩

theorem typesParts_adopt {tag : Option TypeTag} (h : ∀ n ∈ x.subnodes, n.TypesParts) :
    ∀ n ∈ (x.adopt tag).subnodes, n.TypesParts := by
  cases x with
  | constant value old => cases old <;> simp [adopt, subnodes, TypesParts]
  | bindVariable reference old => cases old <;> simp [adopt, subnodes, TypesParts]
  | _ => exact h

theorem TypesOpposite.typed (h : node.TypesOpposite) : (node.typed schema).TypesOpposite := by
  refine ⟨isTypedVariable_typed.trans h.root, ?_⟩
  have parts := h.parts
  clear h
  induction node with
  | identifier name tag => cases tag <;> simp [Node.typed, subnodes, TypesParts]
  | constant | bindVariable | literal => exact parts
  | function name params ih =>
    rw [forall_mem_subnodes_function] at parts
    rw [Node.typed, typedAll_eq_map, forall_mem_subnodes_function, List.forall_mem_map]
    refine ⟨?_, fun p part => ih p part (parts.2 p part)⟩
    show ∀ p ∈ params.map (Node.typed schema), p.isTypedVariable = false
    rw [List.forall_mem_map]
    exact fun p part => isTypedVariable_typed.trans (parts.1 p part)
  | comparison op l r ihl ihr =>
    rw [forall_mem_subnodes_comparison] at parts
    obtain ⟨⟨rootLeft, rootRight⟩, left, right⟩ := parts
    simp only [Node.typed]
    rw [forall_mem_subnodes_comparison]
    refine ⟨⟨fun typed => ?_, fun typed => ?_⟩, typesParts_adopt (ihl left),
      typesParts_adopt (ihr right)⟩
    · rw [isProperty_adopt]
      exact isProperty_of_adopt typed (by rwa [isTypedVariable_typed, isProperty_typed])
    · rw [isProperty_adopt]
      exact isProperty_of_adopt typed (by rwa [isTypedVariable_typed, isProperty_typed])
  | lone op side x ih =>
    rw [forall_mem_subnodes_lone] at parts
    rw [Node.typed, forall_mem_subnodes_lone]
    exact ⟨isTypedVariable_typed.trans parts.1, ih parts.2⟩
  | conjunction op l r ihl ihr =>
    rw [forall_mem_subnodes_conjunction] at parts
    obtain ⟨⟨rootLeft, rootRight⟩, left, right⟩ := parts
    rw [Node.typed, forall_mem_subnodes_conjunction]
    exact ⟨⟨isTypedVariable_typed.trans rootLeft, isTypedVariable_typed.trans rootRight⟩, ihl left,
      ihr right⟩
  | negation x ih =>
    rw [forall_mem_subnodes_negation] at parts
    rw [Node.typed, forall_mem_subnodes_negation]
    exact ⟨isTypedVariable_typed.trans parts.1, ih parts.2⟩

end ContentQuery.Node
