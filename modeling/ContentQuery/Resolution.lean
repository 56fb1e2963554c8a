import ContentQuery.Error
import ContentQuery.Schema
import ContentQuery.Trail

/-!
# Resolution

Resolution gives every property its type from a schema, and carries the type over to the constant or
variable that the property is compared with. Types given before are kept, and the tree keeps its
shape.
-/

namespace ContentQuery

/-- How deep conditions may nest unless said otherwise. -/
def defaultMaxDepth : Nat := 64

structure PropertyFound where
  name : String
  tag : TypeTag

namespace Node

/-- The node with a type, if it is a constant or variable that has none. -/
def adopt (tag : Option TypeTag) : Node → Node
  | constant value none => constant value tag
  | bindVariable reference none => bindVariable reference tag
  | node => node

def propertyTag? : Node → Option TypeTag
  | identifier _ tag => tag
  | _ => none

mutual

/-- The tree with the types that the schema gives it. -/
def typed (schema : Schema) : Node → Node
  | identifier name none => identifier name (schema name)
  | function name params => function name (typedAll schema params)
  | comparison op l r =>
    let l := typed schema l
    let r := typed schema r
    comparison op (l.adopt r.propertyTag?) (r.adopt l.propertyTag?)
  | lone op side x => lone op side (typed schema x)
  | conjunction op l r => conjunction op (typed schema l) (typed schema r)
  | negation x => negation (typed schema x)
  | node => node

def typedAll (schema : Schema) : List Node → List Node
  | [] => []
  | node :: rest => typed schema node :: typedAll schema rest

end

theorem typedAll_eq_map (schema : Schema) (nodes : List Node) :
    typedAll schema nodes = nodes.map (typed schema) := by
  induction nodes with
  | nil => rfl
  | cons node rest ih => rw [typedAll, ih, List.map_cons]

/-- The steps below a node of the given level, unless it nests too deep. -/
@[macro_inline] def unlessDeep {α : Type} (limit level : Nat) (node : Node) (below : Trail QueryError α) :
    Trail QueryError α :=
  if limit < level then [.error (.invalidQuery (.tooDeep limit) node)] else below

mutual

/-- The look-ups that resolution makes below `level` conditions, from the root down and left to
right. -/
def lookups (schema : Schema) (limit level : Nat) : Node → Trail QueryError PropertyFound
  | identifier name none =>
    match schema name with
    | some tag => [.ok ⟨name, tag⟩]
    | none => [.error (.invalidQuery (.unknownProperty name) (identifier name none))]
  | function name params =>
    unlessDeep limit (level + 1) (function name params)
      (lookupsAll schema limit (level + 1) params)
  | comparison op l r =>
    unlessDeep limit (level + 1) (comparison op l r)
      (lookups schema limit (level + 1) l ++ lookups schema limit (level + 1) r)
  | lone op side x =>
    unlessDeep limit (level + 1) (lone op side x) (lookups schema limit (level + 1) x)
  | conjunction op l r =>
    unlessDeep limit (level + 1) (conjunction op l r)
      (lookups schema limit (level + 1) l ++ lookups schema limit (level + 1) r)
  | negation x => unlessDeep limit (level + 1) (negation x) (lookups schema limit (level + 1) x)
  | identifier _ (some _) | constant .. | bindVariable .. | literal _ => []

def lookupsAll (schema : Schema) (limit level : Nat) : List Node → Trail QueryError PropertyFound
  | [] => []
  | node :: rest => lookups schema limit level node ++ lookupsAll schema limit level rest

end

theorem lookupsAll_eq_flatMap (schema : Schema) (limit level : Nat) (nodes : List Node) :
    lookupsAll schema limit level nodes = nodes.flatMap (lookups schema limit level) := by
  induction nodes with
  | nil => rfl
  | cons node rest ih => rw [lookupsAll, ih, List.flatMap_cons]

/-- The resolved tree, or the first fault on the way through it. -/
def resolve (schema : Schema) (limit : Nat) (node : Node) : Except QueryError Node :=
  match (node.lookups schema limit 0).fault? with
  | some e => .error e
  | none => .ok (node.typed schema)

end Node

end ContentQuery
