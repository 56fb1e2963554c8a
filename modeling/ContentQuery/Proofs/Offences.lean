import ContentQuery.Proofs.Descent

/-!
# Offending nodes

What resolution finds wrong is wrong with a node: a comparison, conjunction or function that nests too deep,
or a property that the schema does not know. The nodes are read from left to right, each before its parts,
and resolution fails with the first that offends. How deep a node nests depends on the nodes above it and
not on what was read before.
-/

namespace ContentQuery

theorem Trail.fault?_flatMap_eq_none {ε α β : Type} {xs : List β} {f : β → Trail ε α} :
    fault? (xs.flatMap f) = none ↔ ∀ x ∈ xs, fault? (f x) = none := by
  induction xs with
  | nil => simp
  | cons x rest ih => rw [List.flatMap_cons, fault?_append_eq_none, ih, List.forall_mem_cons]

variable {schema : Schema} {limit level : Nat} {node : Node} {above : List Node}

namespace Node

/-- Comparisons, conjunctions and functions, which count when nodes are nested. -/
def nests : Node → Bool
  | comparison .. | lone .. | conjunction .. | negation _ | function .. => true
  | identifier .. | constant .. | bindVariable .. | literal _ => false

def parts : Node → List Node
  | function _ params => params
  | comparison _ l r | conjunction _ l r => [l, r]
  | lone _ _ x | negation x => [x]
  | identifier .. | constant .. | bindVariable .. | literal _ => []

/-- Induction on a tree, with the hypothesis for every part of a node. -/
theorem induct_parts {motive : Node → Prop} (step : ∀ node, (∀ p ∈ node.parts, motive p) → motive node)
    (node : Node) : motive node := by
  induction node with
  | identifier | constant | bindVariable | literal => exact step _ (by simp [parts])
  | function name params ih => exact step _ ih
  | comparison op l r ihl ihr | conjunction op l r ihl ihr => exact step _ (by simp [parts, ihl, ihr])
  | lone op side x ih | negation x ih => exact step _ (by simp [parts, ih])

theorem parts_eq_nil (h : node.nests = false) : node.parts = [] := by
  cases node <;> first | rfl | cases h

end Node

/-- A node with the nodes above it, from the root down. -/
structure Position where
  above : List Node
  node : Node

namespace Position

/-- How many nodes nest on the way from the root to the node, the node itself counted. -/
def nesting (p : Position) : Nat :=
  (p.above ++ [p.node]).countP Node.nests

/-- The node is the last on a path from the root. -/
def isEnd (p : Position) : Bool :=
  p.node.parts.isEmpty

/-- The fault that resolution finds with a node. -/
def offence? (schema : Schema) (limit : Nat) (p : Position) : Option QueryError :=
  match p.node with
  | .identifier name none =>
    if (schema name).isSome then none else some (.invalidQuery (.unknownProperty name) p.node)
  | node => if node.nests && p.nesting == limit + 1 then some (.invalidQuery (.tooDeep limit) node) else none

end Position

namespace Node

mutual

/-- The positions of a tree from left to right, each node before its parts. -/
def positions (above : List Node) : Node → List Position
  | function name params =>
    ⟨above, function name params⟩ :: positionsAll (above ++ [function name params]) params
  | comparison op l r =>
    let above' := above ++ [comparison op l r]
    ⟨above, comparison op l r⟩ :: (positions above' l ++ positions above' r)
  | lone op side x => ⟨above, lone op side x⟩ :: positions (above ++ [lone op side x]) x
  | conjunction op l r =>
    let above' := above ++ [conjunction op l r]
    ⟨above, conjunction op l r⟩ :: (positions above' l ++ positions above' r)
  | negation x => ⟨above, negation x⟩ :: positions (above ++ [negation x]) x
  | node => [⟨above, node⟩]

def positionsAll (above : List Node) : List Node → List Position
  | [] => []
  | node :: rest => positions above node ++ positionsAll above rest

end

theorem positionsAll_eq_flatMap (above nodes : List Node) :
    positionsAll above nodes = nodes.flatMap (positions above) := by
  induction nodes with
  | nil => rfl
  | cons node rest ih => rw [positionsAll, ih, List.flatMap_cons]

theorem positions_eq (above : List Node) (node : Node) :
    node.positions above = ⟨above, node⟩ :: node.parts.flatMap (positions (above ++ [node])) := by
  cases node <;> simp [positions, parts, positionsAll_eq_flatMap]

theorem subnodes_eq (node : Node) : node.subnodes = node :: node.parts.flatMap subnodes := by
  cases node <;> simp [subnodes, parts, subnodesAll_eq_flatMap]

theorem lookups_of_nests (h : node.nests = true) : node.lookups schema limit level =
    unlessDeep limit (level + 1) node (node.parts.flatMap (lookups schema limit (level + 1))) := by
  cases node with
  | identifier | constant | bindVariable | literal => cases h
  | _ => simp [lookups, parts, lookupsAll_eq_flatMap]

theorem fault?_flatMap_lookups {nodes : List Node} {f : Node → List Position}
    (ih : ∀ p ∈ nodes, (p.lookups schema limit level).fault? =
      (f p).findSome? (Position.offence? schema limit)) :
    Trail.fault? (nodes.flatMap (lookups schema limit level)) =
      (nodes.flatMap f).findSome? (Position.offence? schema limit) := by
  induction nodes with
  | nil => rfl
  | cons p rest others =>
    obtain ⟨first, later⟩ := List.forall_mem_cons.mp ih
    rw [List.flatMap_cons, List.flatMap_cons, Trail.fault?_append, List.findSome?_append, first,
      others later]

theorem countP_snoc_of_nests (h : node.nests = true) (above : List Node) :
    (above ++ [node]).countP nests = above.countP nests + 1 := by
  rw [List.countP_append, List.countP_singleton, if_pos h]

theorem offence?_of_nests (h : node.nests = true) :
    Position.offence? schema limit ⟨above, node⟩ =
      if above.countP nests = limit then some (.invalidQuery (.tooDeep limit) node) else none := by
  have nesting : Position.nesting ⟨above, node⟩ = above.countP nests + 1 := countP_snoc_of_nests h above
  cases node with
  | identifier | constant | bindVariable | literal => cases h
  | _ => simp [Position.offence?, h, nesting]

theorem fault?_lookups (above : List Node) (node : Node) (room : above.countP nests ≤ limit) :
    (node.lookups schema limit (above.countP nests)).fault? =
      (node.positions above).findSome? (Position.offence? schema limit) := by
  -- Only a node with room above it is looked at: one that nests at the limit ends the walk.
  induction node using induct_parts generalizing above with
  | step node ih =>
    rw [positions_eq, List.findSome?_cons]
    cases nesting : node.nests with
    | false =>
      rw [parts_eq_nil nesting]
      cases node with
      | identifier name tag =>
        cases tag with
        | none =>
          simp only [lookups, Position.offence?]
          cases schema name <;> rfl
        | some tag => rfl
      | constant | bindVariable | literal => rfl
      | _ => cases nesting
    | true =>
      rw [lookups_of_nests nesting, offence?_of_nests nesting, unlessDeep]
      by_cases full : above.countP nests = limit
      · rw [if_pos (by omega), if_pos full]
        rfl
      · have count := countP_snoc_of_nests nesting above
        rw [if_neg (by omega), if_neg full, ← count]
        exact fault?_flatMap_lookups fun p mem => ih p mem _ (by omega)

theorem exists_end (above : List Node) (node : Node) :
    ∃ p ∈ node.positions above, p.isEnd = true ∧ (above ++ [node]).countP nests ≤ p.nesting := by
  induction node using induct_parts generalizing above with
  | step node ih =>
    rw [positions_eq]
    cases parts : node.parts with
    | nil =>
      exact ⟨⟨above, node⟩, by simp, by simp [Position.isEnd, parts], Nat.le_refl _⟩
    | cons x rest =>
      obtain ⟨p, mem, last, deep⟩ := ih x (by simp [parts]) (above ++ [node])
      refine ⟨p, by simp [mem], last, ?_⟩
      rw [List.countP_append] at deep
      omega

theorem mem_positions_of_part {x : Node} {p : Position} (part : x ∈ node.parts)
    (mem : p ∈ x.positions (above ++ [node])) : p ∈ node.positions above := by
  rw [positions_eq]
  exact List.mem_cons_of_mem _ (List.mem_flatMap_of_mem part mem)

theorem mem_subnodes_of_part {x n : Node} (part : x ∈ node.parts) (mem : n ∈ x.subnodes) :
    n ∈ node.subnodes := by
  rw [subnodes_eq]
  exact List.mem_cons_of_mem _ (List.mem_flatMap_of_mem part mem)

/-- Every property without a type is known to the schema. -/
def IsKnown (schema : Schema) (node : Node) : Prop :=
  ∀ name, identifier name none ∈ node.subnodes → (schema name).isSome

/-- On every path from the root to an end at most `limit` nodes nest. -/
def NestsWithin (limit : Nat) (above : List Node) (node : Node) : Prop :=
  ∀ p ∈ node.positions above, p.isEnd = true → p.nesting ≤ limit

theorem fault?_lookups_eq_none_iff (above : List Node) (node : Node)
    (room : above.countP nests ≤ limit) :
    (node.lookups schema limit (above.countP nests)).fault? = none ↔
      node.NestsWithin limit above ∧ node.IsKnown schema := by
  induction node using induct_parts generalizing above with
  | step node ih =>
    cases nesting : node.nests with
    | false =>
      have alone : node.NestsWithin limit above := by
        intro p mem last
        rw [positions_eq, parts_eq_nil nesting] at mem
        cases List.mem_singleton.mp mem
        rwa [Position.nesting, List.countP_append, List.countP_singleton, nesting]
      rw [and_iff_right alone, IsKnown, subnodes_eq, parts_eq_nil nesting]
      cases node with
      | identifier name tag =>
        cases tag with
        | none =>
          simp only [lookups]
          cases known : schema name <;> simp [known]
        | some tag => simp [lookups]
      | constant | bindVariable | literal => simp [lookups]
      | _ => cases nesting
    | true =>
      have count := countP_snoc_of_nests nesting above
      rw [lookups_of_nests nesting, fault?_unlessDeep_eq_none_iff, Trail.fault?_flatMap_eq_none]
      constructor
      · rintro ⟨room', below⟩
        rw [← count] at room' below
        have parts := fun x part => (ih x part _ room').mp (below x part)
        constructor
        · intro p mem last
          rw [positions_eq] at mem
          rcases List.mem_cons.mp mem with rfl | mem
          · exact room'
          · obtain ⟨x, part, mem⟩ := List.mem_flatMap.mp mem
            exact (parts x part).1 p mem last
        · intro name mem
          rw [subnodes_eq] at mem
          rcases List.mem_cons.mp mem with rfl | mem
          · cases nesting
          · obtain ⟨x, part, mem⟩ := List.mem_flatMap.mp mem
            exact (parts x part).2 name mem
      · rintro ⟨shallow, known⟩
        have room' : (above ++ [node]).countP nests ≤ limit := by
          obtain ⟨p, mem, last, deep⟩ := exists_end above node
          exact Nat.le_trans deep (shallow p mem last)
        rw [← count]
        refine ⟨room', fun x part => (ih x part _ room').mpr ⟨fun p mem => ?_, fun name mem => ?_⟩⟩
        · exact shallow p (mem_positions_of_part part mem)
        · exact known name (mem_subnodes_of_part part mem)

theorem resolve_eq_error_iff {e : QueryError} :
    node.resolve schema limit = .error e ↔ (node.lookups schema limit 0).fault? = some e := by
  unfold resolve
  cases (node.lookups schema limit 0).fault? <;> simp

/-- Resolution succeeds exactly if no path nests too deep and every property is known, and it fails with
the fault of the first node that has one. The descent with its counter comes to the same. -/
theorem resolve_first_offence (schema : Schema) (limit : Nat) (node : Node) :
    ((∃ resolved, node.resolve schema limit = .ok resolved) ↔
      node.NestsWithin limit [] ∧ node.IsKnown schema) ∧
    (∀ e, node.resolve schema limit = .error e ↔
      ∃ before p after, node.positions [] = before ++ p :: after ∧ p.offence? schema limit = some e ∧
        ∀ q ∈ before, q.offence? schema limit = none) ∧
    (node.descend schema limit).run 0 = (node.resolve schema limit).map (·, 0) := by
  refine ⟨?_, fun e => ?_, descend_eq_resolve schema limit node⟩
  · rw [← fault?_lookups_eq_none_iff [] node (Nat.zero_le limit)]
    constructor
    · rintro ⟨resolved, h⟩
      exact (resolve_eq_ok_iff.mp h).1
    · intro found
      exact ⟨_, resolve_eq_ok_iff.mpr ⟨found, rfl⟩⟩
  · rw [resolve_eq_error_iff, ← List.findSome?_eq_some_iff,
      ← fault?_lookups [] node (Nat.zero_le limit)]
    rfl

end Node

end ContentQuery
