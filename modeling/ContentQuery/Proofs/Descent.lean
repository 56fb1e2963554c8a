import ContentQuery.Node.Build
import ContentQuery.Proofs.Resolution

/-!
# Resolution as a descent

Resolution as it goes through a tree: it counts one up at a condition or function and back down behind it,
and builds every node again from what its parts have become. The counter is always back where it was, and
nothing that is built again is refused, so the descent comes to what resolution is.
-/

namespace ContentQuery

/-- A pass that counts how deep it is and may fail. -/
abbrev Descent := StateT Nat (Except QueryError)

namespace Descent

def enter (limit : Nat) (node : Node) : Descent Unit := do
  modify (· + 1)
  if limit < (← get) then throw (.invalidQuery (.tooDeep limit) node)

def leave : Descent Unit :=
  modify (· - 1)

end Descent

open Descent

namespace Node

mutual

def descend (schema : Schema) (limit : Nat) : Node → Descent Node
  | identifier name none =>
    match schema name with
    | some tag => return identifier name (some tag)
    | none => throw (.invalidQuery (.unknownProperty name) (identifier name none))
  | function name params => do
    enter limit (function name params)
    let params ← descendAll schema limit params
    leave
    return function name params
  | comparison op l r => do
    enter limit (comparison op l r)
    let l ← descend schema limit l
    let r ← descend schema limit r
    let r := r.adopt l.propertyTag?
    let l := l.adopt r.propertyTag?
    leave
    compare? op (some l) (some r)
  | lone op side x => do
    enter limit (lone op side x)
    let x ← descend schema limit x
    leave
    match side with
    | .left => compare? op (some x) none
    | .right => compare? op none (some x)
  | conjunction op l r => do
    enter limit (conjunction op l r)
    let l ← descend schema limit l
    let r ← descend schema limit r
    let node ← conjoin op.operator (some l) r
    leave
    return node
  | negation x => do
    enter limit (negation x)
    let x ← descend schema limit x
    let node ← conjoin .not none x
    leave
    return node
  | node => return node

def descendAll (schema : Schema) (limit : Nat) : List Node → Descent (List Node)
  | [] => return []
  | node :: rest => do
    let node ← descend schema limit node
    let rest ← descendAll schema limit rest
    return node :: rest

end

end Node

variable {α β γ : Type} {t u : Trail QueryError γ} {schema : Schema} {limit depth depth' : Nat}

/-- What a pass comes to that goes along a trail: the first fault, or else what it yields. -/
def Trail.yielding {ε : Type} (t : Trail ε γ) (a : α) : Except ε α :=
  match t.fault? with
  | some e => .error e
  | none => .ok a

namespace Descent

variable {a : α} {out : β × Nat} {node : Node}

theorem run_append {pass : Descent α} {next : α → Descent β}
    (first : pass.run depth = t.yielding (a, depth')) (second : (next a).run depth' = u.yielding out) :
    (pass >>= next).run depth = (t ++ u).yielding out := by
  rw [StateT.run_bind, first, Trail.yielding, Trail.yielding, Trail.fault?_append]
  cases t.fault? with
  | some e => rfl
  | none => exact second

theorem run_enter (limit depth : Nat) (node : Node) : (enter limit node).run depth =
    if limit < depth + 1 then .error (.invalidQuery (.tooDeep limit) node) else .ok ((), depth + 1) := by
  change (if limit < depth + 1 then _ else _ : Descent Unit).run (depth + 1) = _
  split <;> rfl

theorem run_nested {below : Descent β} (h : below.run (depth + 1) = t.yielding out) :
    (do enter limit node; below).run depth =
      (Node.unlessDeep limit (depth + 1) node t).yielding out := by
  rw [StateT.run_bind, run_enter, Node.unlessDeep]
  by_cases deep : limit < depth + 1
  · rw [if_pos deep, if_pos deep]
    rfl
  · rw [if_neg deep, if_neg deep]
    exact h

theorem run_back {pass : Descent α} {next : α → Descent β}
    (first : pass.run depth = t.yielding (a, depth')) (second : (next a).run depth' = .ok out) :
    (pass >>= next).run depth = t.yielding out := by
  rw [StateT.run_bind, first, Trail.yielding, Trail.yielding]
  cases t.fault? with
  | some e => rfl
  | none => exact second

end Descent

namespace Node

open Descent

theorem conjoin_operator (op : Connective) (l r : Node) :
    conjoin op.operator (some l) r = .ok (conjunction op l r) := by
  cases op <;> rfl

theorem run_descendAll {params : List Node}
    (ih : ∀ p ∈ params, (p.descend schema limit).run depth =
      (p.lookups schema limit depth).yielding (p.typed schema, depth)) :
    (descendAll schema limit params).run depth =
      (lookupsAll schema limit depth params).yielding (typedAll schema params, depth) := by
  induction params with
  | nil => rfl
  | cons p rest others =>
    obtain ⟨first, later⟩ := List.forall_mem_cons.mp ih
    exact run_append first (run_back (others later) rfl)

/-- The descent fails with the first fault among the look-ups, or gives the typed tree at the depth that it
began at. -/
theorem run_descend (node : Node) : (node.descend schema limit).run depth =
    (node.lookups schema limit depth).yielding (node.typed schema, depth) := by
  -- The part after another begins at the depth that the first one is left at, which is where it began.
  induction node generalizing depth with
  | identifier name tag =>
    cases tag with
    | some tag => rfl
    | none =>
      simp only [descend, lookups, typed]
      cases schema name <;> rfl
  | constant value tag => cases tag <;> rfl
  | bindVariable reference tag => cases tag <;> rfl
  | literal text => rfl
  | function name params ih => exact run_nested (run_back (run_descendAll fun p mem => ih p mem) rfl)
  | comparison op l r ihl ihr =>
    refine run_nested (run_append ihl (run_back ihr ?_))
    simp only [propertyTag?_adopt]
    rfl
  | lone op side x ih =>
    cases side with
    | left | right => exact run_nested (run_back ih rfl)
  | conjunction op l r ihl ihr =>
    refine run_nested (run_append ihl (run_back ihr ?_))
    rw [conjoin_operator]
    rfl
  | negation x ih => exact run_nested (run_back ih rfl)

theorem descend_eq_resolve (schema : Schema) (limit : Nat) (node : Node) :
    (node.descend schema limit).run 0 = (node.resolve schema limit).map (·, 0) := by
  rw [run_descend, Trail.yielding, resolve]
  cases (node.lookups schema limit 0).fault? <;> rfl

end Node

end ContentQuery
