import ContentQuery.Node.Passes
import ContentQuery.Proofs.Subtrees
import ContentQuery.Proofs.Walk

/-!
# What passes make of a tree

A pass that says nothing of nodes with parts is the walk over the leaves with its own replacements: a census
notes each operand once and changes nothing, fragments give way to zeros, and variables to comparisons. The other
passes come to nodes with parts as well: the first function refuses the tree, and every comparison is negated.
-/

namespace ContentQuery.Visitor

open Node

/-! ### Operands -/

theorem accept_identity (node : Node) : node.accept identity = .ok node :=
  accept_default node

/-- The note that a census takes of an operand. -/
def noted : Node → List String
  | .identifier name tag => ["id " ++ (Node.identifier name tag).text]
  | .constant value tag => ["val " ++ (Node.constant value tag).text]
  | .bindVariable reference tag => ["var " ++ (Node.bindVariable reference tag).text]
  | .literal text => ["lit " ++ (Node.literal text).text]
  | _ => []

theorem run_leaf_census (x : Node) (notes : List String) :
    (census.leaf x).run notes = .ok (x, notes ++ noted x) := by
  cases x with
  | identifier | constant | bindVariable | literal => rfl
  | _ => exact congrArg (fun notes => Except.ok (_, notes)) (List.append_nil notes).symm

theorem run_mapM_census (xs : List Node) (notes : List String) :
    (xs.mapM census.leaf).run notes = .ok (xs, notes ++ xs.flatMap noted) := by
  induction xs generalizing notes with
  | nil => exact congrArg (fun notes => Except.ok ([], notes)) (List.append_nil notes).symm
  | cons x rest ih =>
    rw [List.mapM_cons, StateT.run_bind, run_leaf_census, List.flatMap_cons, ← List.append_assoc]
    change ((rest.mapM census.leaf >>= fun ys => pure (x :: ys)).run (notes ++ noted x)) = _
    rw [StateT.run_bind, ih]
    rfl

/-- A census leaves the tree as it is, and its notes are those of the operands from left to right. -/
theorem run_accept_census (node : Node) (notes : List String) :
    (node.accept census).run notes = .ok (node, notes ++ node.leaves.flatMap noted) := by
  have walk : node.accept census = node.refill <$> node.leaves.mapM census.leaf := accept_eq_refill _ _ _ node
  rw [walk, StateT.run_map, run_mapM_census]
  exact congrArg (fun u => Except.ok (u, _)) node.refill_leaves

/-- Zero for a fragment. -/
def scrubbed : Node → Node
  | .literal _ => zero
  | node => node

theorem accept_scrub (node : Node) : node.accept scrub = .ok (node.refill (node.leaves.map scrubbed)) := by
  have each : scrub.leaf = fun x => pure (scrubbed x) := by
    funext x
    cases x <;> rfl
  have walk : node.accept scrub = node.refill <$> node.leaves.mapM scrub.leaf := accept_eq_refill _ _ _ node
  rw [walk, each, List.mapM_pure]
  rfl

/-- A variable with the property of its name in front. -/
def expanded : Node → Node
  | .bindVariable reference tag =>
    .comparison .eq (.identifier (Name.decode (variableName reference)) none) (.bindVariable reference tag)
  | node => node

/-- A variable that no property can have the name of. -/
def isNameless : Node → Bool
  | .bindVariable reference _ => Text.isBlank (Name.decode (variableName reference))
  | _ => false

theorem leaf_expand (x : Node) : expand.leaf x =
    if isNameless x then .error (.invalidArgument (.blank .identifierName)) else .ok (expanded x) := by
  cases x with
  | bindVariable reference tag =>
    change (do let property ← ofName _; return Node.comparison .eq property _) = _
    rw [ofName, unlessBlank, isNameless]
    split <;> rfl
  | _ => rfl

theorem mapM_expand (xs : List Node) : xs.mapM expand.leaf =
    if xs.any isNameless then .error (.invalidArgument (.blank .identifierName)) else .ok (xs.map expanded) := by
  induction xs with
  | nil => rfl
  | cons x rest ih =>
    rw [List.mapM_cons, leaf_expand, ih, List.any_cons]
    cases isNameless x <;> cases rest.any isNameless <;> rfl

/-- Every variable stands opposite the property of its name, unless one has a name that is blank. -/
theorem accept_expand (node : Node) : node.accept expand =
    if node.leaves.any isNameless then .error (.invalidArgument (.blank .identifierName))
    else .ok (node.refill (node.leaves.map expanded)) := by
  have walk : node.accept expand = node.refill <$> node.leaves.mapM expand.leaf := accept_eq_refill _ _ _ node
  rw [walk, mapM_expand]
  split <;> rfl

/-! ### Nodes with parts -/

def functionName? : Node → Option String
  | .function name _ => some name
  | _ => none

/-- The node, unless a function refuses it. -/
def unlessRefused : Option String → Node → Pass Node
  | some name, _ => .error (.invalidArgument (.refused name))
  | none, node => .ok node

theorem bind_unlessRefused (first second : Option String) (l r : Node) (make : Node → Node → Node) :
    (do let a ← unlessRefused first l; let b ← unlessRefused second r; return make a b) =
      unlessRefused (first.or second) (make l r) := by
  cases first <;> cases second <;> rfl

theorem map_unlessRefused (refused : Option String) (x : Node) (make : Node → Node) :
    (do let a ← unlessRefused refused x; return make a) = unlessRefused refused (make x) := by
  cases refused <;> rfl

/-- The first function refuses the tree; without any, the tree is left as it is. -/
theorem accept_rejectFunctions (node : Node) :
    node.accept rejectFunctions = unlessRefused (node.subnodes.findSome? functionName?) node := by
  induction node with
  | identifier | constant | bindVariable | literal | function => rfl
  | comparison op l r ihl ihr =>
    change (do let a ← l.accept _; let b ← r.accept _; return Node.comparison op a b) = _
    rw [ihl, ihr, bind_unlessRefused, ← List.findSome?_append]
    rfl
  | conjunction op l r ihl ihr =>
    change (do let a ← l.accept _; let b ← r.accept _; return Node.conjunction op a b) = _
    rw [ihl, ihr, bind_unlessRefused, ← List.findSome?_append]
    rfl
  | lone op side x ih =>
    change (do let a ← x.accept _; return Node.lone op side a) = _
    rw [ih, map_unlessRefused]
    rfl
  | negation x ih =>
    change (do let a ← x.accept _; return Node.negation a) = _
    rw [ih, map_unlessRefused]
    rfl

mutual

/-- The tree with every comparison in a negation. -/
def negated : Node → Node
  | .function name params => .function name (negatedAll params)
  | .comparison op l r => .negation (.comparison op (negated l) (negated r))
  | .lone op side x => .negation (.lone op side (negated x))
  | .conjunction op l r => .conjunction op (negated l) (negated r)
  | .negation x => .negation (negated x)
  | node => node

def negatedAll : List Node → List Node
  | [] => []
  | node :: rest => negated node :: negatedAll rest

end

theorem accept_negate (node : Node) : node.accept negate = .ok (negated node) := by
  induction node with
  | identifier | constant | bindVariable | literal => rfl
  | function name params ih =>
    have all : acceptAll negate params = .ok (negatedAll params) := by
      induction params with
      | nil => rfl
      | cons p rest others =>
        obtain ⟨first, later⟩ := List.forall_mem_cons.mp ih
        rw [acceptAll, first, others later]
        rfl
    change (do let params ← acceptAll negate params; return Node.function name params) = _
    rw [all]
    rfl
  | comparison op l r ihl ihr =>
    change (do
      let node ← (do let a ← l.accept _; let b ← r.accept _; return Node.comparison op a b)
      return node.negation) = _
    rw [ihl, ihr]
    rfl
  | lone op side x ih =>
    change (do
      let node ← (do let a ← x.accept _; return Node.lone op side a)
      return node.negation) = _
    rw [ih]
    rfl
  | conjunction op l r ihl ihr =>
    change (do let a ← l.accept _; let b ← r.accept _; return Node.conjunction op a b) = _
    rw [ihl, ihr]
    rfl
  | negation x ih =>
    change (do let a ← x.accept _; return Node.negation a) = _
    rw [ih]
    rfl

end ContentQuery.Visitor
