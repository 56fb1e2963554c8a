import ContentQuery.Node.Visitor
import ContentQuery.Proofs.Descent

/-!
# The walk over the leaves

A visitor that says nothing of comparisons, conjunctions and functions comes to the leaves of a tree only, to each
once and from left to right. Around what it makes of them the tree is built again as it was. If it fails at a
leaf, it comes to no other.
-/

namespace ContentQuery

namespace Node

mutual

/-- Properties, constants, variables and fragments, from left to right. -/
def leaves : Node → List Node
  | function _ params => leavesAll params
  | comparison _ l r | conjunction _ l r => leaves l ++ leaves r
  | lone _ _ x | negation x => leaves x
  | node => [node]

def leavesAll : List Node → List Node
  | [] => []
  | node :: rest => leaves node ++ leavesAll rest

end

mutual

/-- The tree with other nodes in the places of its leaves. -/
def refill : Node → List Node → Node
  | function name params, news => function name (refillAll params news)
  | comparison op l r, news =>
    comparison op (refill l (news.take l.leaves.length)) (refill r (news.drop l.leaves.length))
  | lone op side x, news => lone op side (refill x news)
  | conjunction op l r, news =>
    conjunction op (refill l (news.take l.leaves.length)) (refill r (news.drop l.leaves.length))
  | negation x, news => negation (refill x news)
  | leaf, news => news.headD leaf

def refillAll : List Node → List Node → List Node
  | [], _ => []
  | node :: rest, news =>
    refill node (news.take node.leaves.length) :: refillAll rest (news.drop node.leaves.length)

end

end Node

section

variable {m : Type → Type} [Monad m]

/-- What a visitor makes of a leaf, by its kind. -/
def Visitor.leaf (v : Visitor m) : Node → m Node
  | .identifier name tag => v.identifier (.identifier name tag)
  | .constant value tag => v.value (.constant value tag)
  | .bindVariable reference tag => v.value (.bindVariable reference tag)
  | .literal text => v.literal (.literal text)
  | node => return node

/-- The visitor that says nothing but what replaces leaves. -/
def Visitor.ofLeaves (identifier value literal : Node → m Node) : Visitor m :=
  { identifier, value, literal }

namespace Node

mutual

/-- The walk, with every comparison and conjunction checked again when it is built around its new parts. -/
def acceptChecked [MonadExceptOf QueryError m] (v : Visitor m) : Node → m Node
  | identifier name tag => v.identifier (identifier name tag)
  | constant value tag => v.value (constant value tag)
  | bindVariable reference tag => v.value (bindVariable reference tag)
  | literal text => v.literal (literal text)
  | function name params =>
    v.function (function name params) do
      let params ← acceptAllChecked v params
      return function name params
  | comparison op l r =>
    v.comparison (comparison op l r) do
      let l ← acceptChecked v l
      let r ← acceptChecked v r
      MonadExcept.ofExcept (compare? op (some l) (some r))
  | lone op side x =>
    v.comparison (lone op side x) do
      let x ← acceptChecked v x
      match side with
      | .left => MonadExcept.ofExcept (compare? op (some x) none)
      | .right => MonadExcept.ofExcept (compare? op none (some x))
  | conjunction op l r =>
    v.conjunction (conjunction op l r) do
      let l ← acceptChecked v l
      let r ← acceptChecked v r
      MonadExcept.ofExcept (conjoin op.operator (some l) r)
  | negation x =>
    v.conjunction (negation x) do
      let x ← acceptChecked v x
      MonadExcept.ofExcept (conjoin .not none x)

def acceptAllChecked [MonadExceptOf QueryError m] (v : Visitor m) : List Node → m (List Node)
  | [] => return []
  | node :: rest => do
    let node ← acceptChecked v node
    let rest ← acceptAllChecked v rest
    return node :: rest

end

/-- No check is ever failed, whatever the new parts are and whatever else the visitor does. -/
theorem acceptChecked_eq [MonadExceptOf QueryError m] (v : Visitor m) (node : Node) :
    node.acceptChecked v = node.accept v := by
  induction node with
  | identifier | constant | bindVariable | literal => rfl
  | function name params ih =>
    have all : acceptAllChecked v params = acceptAll v params := by
      induction params with
      | nil => rfl
      | cons p rest others =>
        obtain ⟨first, later⟩ := List.forall_mem_cons.mp ih
        rw [acceptAllChecked, acceptAll, first, others later]
    rw [acceptChecked, accept, all]
  | comparison op l r ihl ihr =>
    rw [acceptChecked, accept, ihl, ihr]
    rfl
  | lone op side x ih =>
    rw [acceptChecked, accept, ih]
    cases side with
    | left | right => rfl
  | conjunction op l r ihl ihr =>
    rw [acceptChecked, accept, ihl, ihr]
    simp only [conjoin_operator]
    rfl
  | negation x ih =>
    rw [acceptChecked, accept, ih]
    rfl

/-! ### One call for each leaf -/

variable [LawfulMonad m] {α β γ : Type}

/-- Only lists of the right length come out of a list of calls. -/
theorem bind_mapM_congr {f : α → m β} {xs : List α} {next other : List β → m γ}
    (same : ∀ ys, ys.length = xs.length → next ys = other ys) : xs.mapM f >>= next = xs.mapM f >>= other := by
  induction xs generalizing next other with
  | nil => simpa using same [] rfl
  | cons x rest ih =>
    simp only [List.mapM_cons, bind_assoc, pure_bind]
    exact bind_congr fun y => ih fun ys length => same (y :: ys) (congrArg (· + 1) length)

/-- Two parts one after the other, each built from its own share of what the calls give. -/
theorem bind_shares {γ' δ : Type} {f : α → m β} {xs xs' : List α} (first : List β → γ) (second : List β → γ')
    (make : γ → γ' → δ) :
    (do
      let a ← first <$> xs.mapM f
      let b ← second <$> xs'.mapM f
      return make a b) =
      (fun news => make (first (news.take xs.length)) (second (news.drop xs.length))) <$>
        (xs ++ xs').mapM f := by
  simp only [List.mapM_append, map_eq_pure_bind, bind_assoc, pure_bind]
  refine bind_mapM_congr fun ys length => bind_congr fun zs => ?_
  rw [← length, List.take_left, List.drop_left]

theorem accept_leaf {v : Visitor m} {x : Node} (alone : x.leaves = [x]) (call : x.accept v = v.leaf x)
    (replaced : ∀ y, x.refill [y] = y) : x.accept v = x.refill <$> x.leaves.mapM v.leaf := by
  rw [call, alone, List.mapM_cons, List.mapM_nil]
  simp [replaced]

theorem acceptAll_eq_refillAll {v : Visitor m} {params : List Node}
    (ih : ∀ p ∈ params, p.accept v = p.refill <$> p.leaves.mapM v.leaf) :
    acceptAll v params = refillAll params <$> (leavesAll params).mapM v.leaf := by
  induction params with
  | nil => simp [acceptAll, refillAll, leavesAll]
  | cons p rest others =>
    obtain ⟨first, later⟩ := List.forall_mem_cons.mp ih
    rw [acceptAll, first, others later, leavesAll, bind_shares p.refill (refillAll rest) List.cons]
    rfl

/-- The walk calls the visitor for the leaves in turn, and puts what the calls give in their places. -/
theorem accept_eq_refill (onIdentifier onValue onLiteral : Node → m Node) (node : Node) :
    let v : Visitor m := .ofLeaves onIdentifier onValue onLiteral
    node.accept v = node.refill <$> node.leaves.mapM v.leaf := by
  intro v
  -- The visitor leaves nodes with parts to the walk, so that each is the walk through its parts.
  induction node with
  | identifier | constant | bindVariable | literal => exact accept_leaf rfl rfl fun _ => rfl
  | function name params ih =>
    change (do let params ← acceptAll v params; return function name params) = _
    rw [acceptAll_eq_refillAll ih, leaves, bind_map_left, map_eq_pure_bind]
    rfl
  | comparison op l r ihl ihr =>
    change (do let a ← l.accept v; let b ← r.accept v; return comparison op a b) = _
    rw [ihl, ihr, bind_shares l.refill r.refill (comparison op)]
    rfl
  | lone op side x ih =>
    change (do let a ← x.accept v; return lone op side a) = _
    rw [ih, bind_map_left, map_eq_pure_bind]
    rfl
  | conjunction op l r ihl ihr =>
    change (do let a ← l.accept v; let b ← r.accept v; return conjunction op a b) = _
    rw [ihl, ihr, bind_shares l.refill r.refill (conjunction op)]
    rfl
  | negation x ih =>
    change (do let a ← x.accept v; return negation a) = _
    rw [ih, bind_map_left, map_eq_pure_bind]
    rfl

theorem refillAll_leavesAll {params : List Node} (ih : ∀ p ∈ params, p.refill p.leaves = p) :
    refillAll params (leavesAll params) = params := by
  induction params with
  | nil => rfl
  | cons p rest others =>
    obtain ⟨first, later⟩ := List.forall_mem_cons.mp ih
    rw [leavesAll, refillAll, List.take_left, List.drop_left, first, others later]

theorem refill_leaves (node : Node) : node.refill node.leaves = node := by
  induction node with
  | identifier | constant | bindVariable | literal => rfl
  | function name params ih => rw [leaves, refill, refillAll_leavesAll ih]
  | comparison op l r ihl ihr => rw [leaves, refill, List.take_left, List.drop_left, ihl, ihr]
  | lone op side x ih => rw [leaves, refill, ih]
  | conjunction op l r ihl ihr => rw [leaves, refill, List.take_left, List.drop_left, ihl, ihr]
  | negation x ih => rw [leaves, refill, ih]

/-- A visitor that says nothing at all leaves the tree as it is. -/
theorem accept_default (node : Node) : node.accept ({} : Visitor m) = return node := by
  have each : (Visitor.ofLeaves (pure : Node → m Node) pure pure).leaf = fun x => pure (id x) := by
    funext x
    cases x <;> rfl
  have walk := accept_eq_refill (pure : Node → m Node) pure pure node
  dsimp only at walk
  rw [each, List.mapM_pure, List.map_id, map_pure, refill_leaves] at walk
  exact walk

end Node

end

/-! ### Calls that change a state and may fail -/

/-- A pass that may fail, over a state that it changes all the same. -/
abbrev StatefulPass (σ : Type) := ExceptT QueryError (StateM σ)

variable {σ : Type} {α β : Type}

/-- What a pass ends with when it begins in a state, and the state that it leaves. -/
def StatefulPass.outcome (pass : StatefulPass σ α) (s : σ) : Except QueryError α × σ :=
  StateT.run pass.run s

/-- The calls for all items succeed in turn, each beginning in the state that the one before has left. -/
inductive Calls (call : α → StatefulPass σ β) : List α → σ → List β → σ → Prop
  | nil (s : σ) : Calls call [] s [] s
  | cons {x : α} {y : β} {xs : List α} {ys : List β} {s s' s'' : σ}
      (first : StatefulPass.outcome (call x) s = (.ok y, s')) (later : Calls call xs s' ys s'') :
      Calls call (x :: xs) s (y :: ys) s''

namespace StatefulPass

variable {pass : StatefulPass σ α} {next : α → StatefulPass σ β} {s s' : σ}

theorem outcome_bind_of_ok {a : α} (h : pass.outcome s = (.ok a, s')) :
    (pass >>= next).outcome s = (next a).outcome s' := by
  unfold outcome at h ⊢
  rw [ExceptT.run_bind, StateT.run_bind, h]
  rfl

theorem outcome_bind_of_error {e : QueryError} (h : pass.outcome s = (.error e, s')) :
    (pass >>= next).outcome s = (.error e, s') := by
  unfold outcome at h ⊢
  rw [ExceptT.run_bind, StateT.run_bind, h]
  rfl

theorem outcome_map_of_ok {a : α} (f : α → β) (h : pass.outcome s = (.ok a, s')) :
    (f <$> pass).outcome s = (.ok (f a), s') := by
  rw [map_eq_pure_bind, outcome_bind_of_ok h]
  rfl

theorem outcome_map_of_error {e : QueryError} (f : α → β) (h : pass.outcome s = (.error e, s')) :
    (f <$> pass).outcome s = (.error e, s') := by
  rw [map_eq_pure_bind, outcome_bind_of_error h]

/-- Either all calls succeed in turn, or one fails and is the last. -/
theorem outcome_mapM (call : α → StatefulPass σ β) (xs : List α) (s : σ) :
    (∃ ys last, Calls call xs s ys last ∧ (xs.mapM call).outcome s = (.ok ys, last)) ∨
      ∃ before x after ys s' e last, xs = before ++ x :: after ∧ Calls call before s ys s' ∧
        (call x).outcome s' = (.error e, last) ∧ (xs.mapM call).outcome s = (.error e, last) := by
  induction xs generalizing s with
  | nil => exact .inl ⟨[], s, .nil s, rfl⟩
  | cons x rest ih =>
    rw [List.mapM_cons]
    obtain ⟨⟨result, s'⟩, here⟩ : ∃ ending, (call x).outcome s = ending := ⟨_, rfl⟩
    cases result with
    | error e => exact .inr ⟨[], x, rest, [], s, e, s', rfl, .nil s, here, outcome_bind_of_error here⟩
    | ok y =>
      rcases ih s' with
        ⟨ys, last, calls, ends⟩ | ⟨before, z, after, ys, t, e, last, parts, calls, fails, ends⟩
      · refine .inl ⟨y :: ys, last, .cons here calls, ?_⟩
        rw [outcome_bind_of_ok here, outcome_bind_of_ok ends]
        rfl
      · refine .inr ⟨x :: before, z, after, y :: ys, t, e, last, congrArg (x :: ·) parts,
          .cons here calls, fails, ?_⟩
        rw [outcome_bind_of_ok here, outcome_bind_of_error ends]

end StatefulPass

namespace Node

/-- A visitor that says nothing of nodes with parts is called for the leaves of a tree, each once and from left to
right. If no call fails, what they give stands in the places of the leaves, and the tree is the same around them;
if one fails, its error is the result, and no other leaf is come to. No node that is built again is refused. A
visitor that says nothing at all changes nothing. -/
theorem accept_leaves (onIdentifier onValue onLiteral : Node → StatefulPass σ Node) (node : Node) (s : σ) :
    let v : Visitor (StatefulPass σ) := .ofLeaves onIdentifier onValue onLiteral
    ((∃ news last, Calls v.leaf node.leaves s news last ∧
        (node.accept v).outcome s = (.ok (node.refill news), last)) ∨
      ∃ before x after news s' e last, node.leaves = before ++ x :: after ∧
        Calls v.leaf before s news s' ∧ (v.leaf x).outcome s' = (.error e, last) ∧
          (node.accept v).outcome s = (.error e, last)) ∧
      node.acceptChecked v = node.accept v ∧
        node.accept ({} : Visitor (StatefulPass σ)) = return node := by
  intro v
  refine ⟨?_, acceptChecked_eq v node, accept_default node⟩
  rw [accept_eq_refill]
  rcases StatefulPass.outcome_mapM v.leaf node.leaves s with
    ⟨news, last, calls, ends⟩ | ⟨before, x, after, news, s', e, last, parts, calls, fails, ends⟩
  · exact .inl ⟨news, last, calls, StatefulPass.outcome_map_of_ok _ ends⟩
  · exact .inr ⟨before, x, after, news, s', e, last, parts, calls, fails,
      StatefulPass.outcome_map_of_error _ ends⟩

end Node

end ContentQuery
