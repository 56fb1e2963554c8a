import ContentQuery.Dialect.Builtin
import ContentQuery.Proofs.Rendering.Invariance
import ContentQuery.Proofs.Translation
import Mathlib.Data.List.Infix

/-!
# Nested conditions

A condition contributes to a query what it is rendered as alone, whatever surrounds it. The exception
are conditions below `LIKE` and in the list of `IN`: the flags for the operand stay set while it is
rendered, and reach every value inside it.
-/

namespace ContentQuery

open Script

/-! ### Surroundings -/

/-- Comparisons and conjunctions. -/
def Node.isCondition : Node → Bool
  | comparison .. | lone .. | conjunction .. | negation _ => true
  | identifier .. | constant .. | bindVariable .. | literal _ | function .. => false

/-- A condition without one of its parts. -/
inductive Frame where
  | first (op : Operator) (right : Node)
  | second (op : Operator) (left : Node)
  | alone (op : Operator) (side : Side)
  | left (op : Connective) (right : Node)
  | right (op : Connective) (left : Node)
  | negated

namespace Frame

def fill : Frame → Node → Node
  | first op r, x => .comparison op x r
  | second op l, x => .comparison op l x
  | alone op side, x => .lone op side x
  | left op r, x => .conjunction op x r
  | right op l, x => .conjunction op l x
  | negated, x => .negation x

/-- The part is no operand of `LIKE`, and is not rendered as the list of an `IN`. -/
def IsOpen : Frame → Prop
  | first op r => op ≠ .like ∧ (r.isReference = true → op ≠ .isIn)
  | second op _ => op ≠ .like ∧ op ≠ .isIn
  | alone .. | left .. | right .. | negated => True

/-- The tree with a part at the end of a path of frames. -/
def plug (path : List Frame) (part : Node) : Node :=
  path.foldr fill part

end Frame

variable {env : Setting} {level : Nat} {ctx ctx' : Context} {node l r x : Node} {op : Operator}
  {pieces : List Piece}

theorem Node.isReference_of_isCondition (h : x.isCondition = true) : x.isReference = false := by
  cases x <;> first | rfl | cases h

theorem Script.isNull_of_isCondition (h : node.isCondition = true) : isNull env node = false := by
  cases node <;> first | rfl | cases h

theorem Frame.isCondition_fill (f : Frame) (x : Node) : (f.fill x).isCondition = true := by
  cases f <;> rfl

theorem Frame.isCondition_plug (path : List Frame) (h : x.isCondition = true) :
    (plug path x).isCondition = true := by
  cases path with
  | nil => exact h
  | cons f path => exact f.isCondition_fill _

/-! ### One frame -/

/-- The pieces that a node is rendered as, for a node that can be rendered. -/
def Node.piecesIn (env : Setting) (level : Nat) (ctx : Context) (node : Node) : List Piece :=
  (ofNode env level node ctx).1.steps

theorem Renders.eq_piecesIn (h : Renders env level ctx node pieces ctx') :
    pieces = node.piecesIn env level ctx := by
  rw [Node.piecesIn, ofNode_eq_of_renders h, Trail.steps_map_ok]

/-- What stands around a part. It depends on the frame alone. -/
structure Frame.Surrounds (env : Setting) (level : Nat) (f : Frame) (before after : List Piece) : Prop where
  part : ∀ x pieces ctx, x.isCondition = true → Renders env level {} (f.fill x) pieces ctx →
    ∃ ps, Renders env (level + 1) {} x ps {} ∧ pieces = before ++ ps ++ after

theorem Operator.enter_second (noLike : op ≠ .like) (noIn : op ≠ .isIn) :
    op.enter { op.leave {} with inList := op == .isIn } = {} := by
  rw [enter_of_ne noLike, leave_of_ne noLike, beq_eq_false_iff_ne.mpr noIn]

theorem Operator.reverse_ne (noLike : op ≠ .like) : op.reverse ≠ .like := by
  cases op <;> first | exact absurd rfl noLike | decide

theorem Operator.reverse_ne_isIn (noIn : op ≠ .isIn) : op.reverse ≠ .isIn := by
  cases op <;> first | exact absurd rfl noIn | decide

namespace Frame

theorem exists_surrounds_second (env : Setting) (level : Nat) (l : Node) (noLike : op ≠ .like)
    (noIn : op ≠ .isIn) :
    ∃ before after, (second op l).Surrounds env level before after := by
  refine ⟨l.piecesIn env (level + 1) {} ++ [.word (" " ++ op.token ++ " ")], [], ⟨?_⟩⟩
  intro x pieces ctx condition h
  cases h with
  | tested _ _ null => simp [isNull_of_isCondition condition] at null
  | turned trade => simp [Node.turned, Node.isReference_of_isCondition condition] at trade
  | @joined _ _ ctx₁ ctx₂ _ _ _ ps qs room compares straight notNull left right =>
    rw [Operator.enter_of_ne noLike] at left
    cases left.eq_empty
    rw [Operator.enter_second noLike noIn] at right
    cases right.eq_empty
    refine ⟨qs, right, ?_⟩
    rw [Operator.wrap_of_ne noLike, Operator.wrap_of_ne noLike, left.eq_piecesIn]
    simp

theorem exists_surrounds_first (env : Setting) (level : Nat) (noLike : op ≠ .like)
    (straight : r.isReference = false) :
    ∃ before after, (first op r).Surrounds env level before after := by
  have notTurned (x : Node) : x.turned r = false := by simp [Node.turned, straight]
  cases null : isNull env r with
  | true =>
    refine ⟨[], [.word ((nullTest? op).getD "")], ⟨?_⟩⟩
    intro x pieces ctx condition h
    cases h with
    | joined _ _ _ notNull => simp [null] at notNull
    | turned trade => simp [notTurned] at trade
    | tested _ _ _ test inner =>
      cases inner.eq_empty
      exact ⟨_, inner, by rw [test]; rfl⟩
  | false =>
    refine ⟨[], .word (" " ++ op.token ++ " ") :: r.piecesIn env (level + 1) { inList := op == .isIn }, ⟨?_⟩⟩
    intro x pieces ctx condition h
    cases h with
    | tested _ _ null' => simp [null] at null'
    | turned trade => simp [notTurned] at trade
    | joined room compares _ notNull left right =>
      rw [Operator.enter_of_ne noLike] at left
      cases left.eq_empty
      rw [Operator.enter_of_ne noLike, Operator.leave_of_ne noLike] at right
      refine ⟨_, left, ?_⟩
      rw [Operator.wrap_of_ne noLike, Operator.wrap_of_ne noLike, right.eq_piecesIn]
      rfl

theorem exists_surrounds (env : Setting) (level : Nat) {f : Frame} (opened : f.IsOpen) :
    ∃ before after, f.Surrounds env level before after := by
  cases f with
  | second op l => exact exists_surrounds_second env level l opened.1 opened.2
  | first op r =>
    cases reference : r.isReference with
    | false => exact exists_surrounds_first env level opened.1 reference
    | true =>
      -- The operands trade places, and the part becomes the second one.
      obtain ⟨before, after, around⟩ := exists_surrounds_second env level r
        (Operator.reverse_ne opened.1) (Operator.reverse_ne_isIn (opened.2 reference))
      refine ⟨before, after, ⟨fun x pieces ctx condition h => ?_⟩⟩
      have trade : x.turned r = true := by
        simp [Node.turned, Node.isReference_of_isCondition condition, reference]
      cases h with
      | tested _ straight => simp [trade] at straight
      | joined _ _ straight => simp [trade] at straight
      | turned _ swapped => exact around.part x pieces ctx condition swapped
  | alone op side =>
    refine ⟨[], [.word ((nullTest? op).getD "")], ⟨fun x pieces ctx condition h => ?_⟩⟩
    cases h with
    | lone _ test inner =>
      cases inner.eq_empty
      exact ⟨_, inner, by rw [test]; rfl⟩
  | left op r =>
    refine ⟨[.word "("], .word (") " ++ op.operator.token ++ " (") ::
      (r.piecesIn env (level + 1) {} ++ [.word ")"]), ⟨fun x pieces ctx condition h => ?_⟩⟩
    cases h with
    | conjunction _ _ left right =>
      cases left.eq_empty
      refine ⟨_, left, ?_⟩
      rw [right.eq_piecesIn]
      simp
  | right op l =>
    refine ⟨.word "(" :: (l.piecesIn env (level + 1) {} ++ [.word (") " ++ op.operator.token ++ " (")]),
      [.word ")"], ⟨fun x pieces ctx condition h => ?_⟩⟩
    cases h with
    | conjunction _ _ left right =>
      cases left.eq_empty
      cases right.eq_empty
      refine ⟨_, right, ?_⟩
      rw [left.eq_piecesIn]
      simp
  | negated =>
    refine ⟨[.word "NOT ("], [.word ")"], ⟨fun x pieces ctx condition h => ?_⟩⟩
    cases h with
    | negation _ inner =>
      cases inner.eq_empty
      exact ⟨_, inner, rfl⟩

end Frame

/-! ### Paths -/

theorem Frame.exists_plug {path : List Frame} (opened : ∀ f ∈ path, f.IsOpen) (env : Setting) (level : Nat) :
    ∃ before after : List Piece, ∀ x pieces ctx, x.isCondition = true →
      Renders env level {} (plug path x) pieces ctx →
        ∃ ps, Renders env (level + path.length) {} x ps {} ∧ pieces = before ++ ps ++ after := by
  induction path generalizing level with
  | nil =>
    refine ⟨[], [], fun x pieces ctx _ h => ⟨pieces, ?_, by simp⟩⟩
    cases h.eq_empty
    exact h
  | cons f path ih =>
    obtain ⟨here, below⟩ := List.forall_mem_cons.mp opened
    obtain ⟨before, after, around⟩ := exists_surrounds env level here
    obtain ⟨inBefore, inAfter, inside⟩ := ih below (level + 1)
    refine ⟨before ++ inBefore, inAfter ++ after, fun x pieces ctx condition h => ?_⟩
    obtain ⟨ps, rendered, rfl⟩ := around.part _ _ _ (isCondition_plug path condition) h
    obtain ⟨qs, alone, rfl⟩ := inside x ps {} condition rendered
    refine ⟨qs, ?_, by simp⟩
    rwa [List.length_cons, Nat.add_comm path.length, ← Nat.add_assoc]

/-- Along an open path a condition is rendered as it is alone, between what the path is rendered as.
Only its parameters have other numbers. -/
theorem Node.render_plug {path : List Frame} (opened : ∀ f ∈ path, f.IsOpen) (env : Setting) :
    ∃ before after : List Piece, ∀ (d : Dialect) (x : Node) (r : Rendered), x.isCondition = true →
      (Frame.plug path x).render d env = .ok r →
        ∃ pieces, x.render d env = .ok (.ofPieces d pieces) ∧
          r = .ofPieces d (before ++ pieces ++ after) := by
  obtain ⟨before, after, around⟩ := Frame.exists_plug opened env 0
  refine ⟨before, after, fun d x r condition h => ?_⟩
  obtain ⟨whole, ctx, follows, rfl⟩ := Node.render_eq_ok_iff.mp h
  obtain ⟨pieces, inside, rfl⟩ := around x whole ctx condition follows
  exact ⟨pieces, Node.render_eq_ok_iff.mpr ⟨pieces, {}, inside.of_le (Nat.zero_le _), rfl⟩, rfl⟩

/-- A comparison with a parameter, in a comparison in the second part of a conjunction. -/
theorem Node.render_plug_comparison :
    let age : Node := .identifier "age" (some .long)
    let path : List Frame := [.right .and (.lone .ne .left age), .first .eq age]
    let part : Node := .comparison .gt age (.bindVariable ":min" (some .long))
    let env : Setting := ⟨fun _ => some (.str "18"), {}⟩
    ∃ before after pieces, part.render .ansi env = .ok (.ofPieces .ansi pieces) ∧
      (Frame.plug path part).render .ansi env = .ok (.ofPieces .ansi (before ++ pieces ++ after)) := by
  intro age path part env
  have opened : ∀ f ∈ path, f.IsOpen := by
    simp [path, Frame.IsOpen]
  obtain ⟨before, after, around⟩ := Node.render_plug opened env
  obtain ⟨r, h⟩ : ∃ r, (Frame.plug path part).render .ansi env = .ok r := ⟨_, rfl⟩
  obtain ⟨pieces, alone, rfl⟩ := around .ansi part r rfl h
  exact ⟨before, after, pieces, alone, h⟩

/-- An equality is no operand of `LIKE` itself, but below one its text is in capitals. -/
theorem Node.render_below_like :
    let name : Node := .identifier "name" (some .string)
    let part : Node := .comparison .eq name (.constant (.str "Bob") (some .string))
    let env : Setting := ⟨Bindings.empty, {}⟩
    ∃ r q, (Node.comparison .like name part).render .ansi env = .ok r ∧ part.render .ansi env = .ok q ∧
      r.sql = "UPPER(name) LIKE UPPER(name = 'BOB')" ∧ q.sql = "name = 'Bob'" ∧
      ∀ before after : String, r.sql ≠ before ++ q.sql ++ after := by
  intro name part env
  obtain ⟨r, whole, below⟩ : ∃ r, (Node.comparison .like name part).render .ansi env = .ok r ∧
      r.sql = "UPPER(name) LIKE UPPER(name = 'BOB')" := ⟨_, rfl, by decide⟩
  obtain ⟨q, alone, itself⟩ : ∃ q, part.render .ansi env = .ok q ∧ q.sql = "name = 'Bob'" :=
    ⟨_, rfl, by decide⟩
  refine ⟨r, q, whole, alone, below, itself, fun before after same => ?_⟩
  have apart : ¬ "name = 'Bob'".toList <:+: "UPPER(name) LIKE UPPER(name = 'BOB')".toList := by decide
  rw [below, itself] at same
  have chars := congrArg String.toList same
  rw [String.toList_append, String.toList_append] at chars
  exact apart ⟨before.toList, after.toList, chars.symm⟩

end ContentQuery
