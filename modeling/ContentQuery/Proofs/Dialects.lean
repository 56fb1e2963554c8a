import ContentQuery.Proofs.Rendering.Writing

/-!
# One query in several dialects

A dialect is asked only for spellings. Two passes that write one tree for different dialects fail alike or
write the same pieces, each in its own spelling, so parameters and fragments are the same in every dialect.
-/

namespace ContentQuery

namespace Writing

variable {α : Type} {d d' : Dialect} {p p' : Writing α} {level : Nat} {ctx ctx' : Context} {t : Script}
  {a : α}

/-- Two outcomes of passes that had written `out` and `out'` before: one fault, or the same behind both. -/
def WriteAlike (d d' : Dialect) (out out' : Rendered) :
    Except QueryError (α × Draft) → Except QueryError (α × Draft) → Prop
  | .ok (a, w), .ok (b, v) =>
    a = b ∧ w.level = v.level ∧ w.ctx = v.ctx ∧
      ∃ pieces, w.out = out.followed d pieces ∧ v.out = out'.followed d' pieces
  | .error e, .error f => e = f
  | _, _ => False

theorem Writes.alike (h : Writes d p level ctx t a ctx') (h' : Writes d' p' level ctx t a ctx')
    (out out' : Rendered) :
    WriteAlike d d' out out' (p.run ⟨out, level, ctx⟩) (p'.run ⟨out', level, ctx⟩) := by
  rw [h out, h' out', Trail.yielding, Trail.yielding]
  cases t.fault? with
  | some e => rfl
  | none => exact ⟨rfl, rfl, rfl, t.steps, rfl, rfl⟩

/-- Wherever the two passes stand, one more tree makes them fail alike or go on alike. -/
theorem ofNode_alike (d d' : Dialect) (env : Setting) (node : Node) (level : Nat) (ctx : Context)
    (out out' : Rendered) :
    WriteAlike d d' out out' ((ofNode d env node).run ⟨out, level, ctx⟩)
      ((ofNode d' env node).run ⟨out', level, ctx⟩) :=
  (writes_ofNode node).alike (writes_ofNode node) out out'

end Writing

/-- Under two dialects one query fails with one fault, or becomes the same pieces with the same parameters
and the same fragments. -/
theorem Engine.translate_across_dialects (d d' : Dialect) (options : RenderOptions) (schema : Schema)
    (bindings : Bindings) (node : Node) :
    match (Engine.mk d options).translate schema bindings node,
      (Engine.mk d' options).translate schema bindings node with
    | .ok r, .ok r' =>
      r.params = r'.params ∧ r.verbatim = r'.verbatim ∧
        ∃ pieces, r.sql = String.join (Piece.spellFrom d 1 pieces) ∧
          r'.sql = String.join (Piece.spellFrom d' 1 pieces)
    | .error fault, .error fault' => fault = fault'
    | _, _ => False := by
  rw [translate_eq_written, translate_eq_written]
  dsimp only
  cases node.resolve schema options.maxDepth with
  | error fault => rfl
  | ok resolved =>
    have alike := Writing.ofNode_alike d d' ⟨bindings, options⟩ resolved 0 {} ⟨"", [], []⟩ ⟨"", [], []⟩
    simp only [bind, Except.bind]
    cases run : (Writing.ofNode d ⟨bindings, options⟩ resolved).run ⟨⟨"", [], []⟩, 0, {}⟩ with
    | error fault =>
      cases run' : (Writing.ofNode d' ⟨bindings, options⟩ resolved).run ⟨⟨"", [], []⟩, 0, {}⟩ with
      | error fault' =>
        rw [run, run'] at alike
        exact alike
      | ok w' =>
        rw [run, run'] at alike
        exact alike.elim
    | ok w =>
      cases run' : (Writing.ofNode d' ⟨bindings, options⟩ resolved).run ⟨⟨"", [], []⟩, 0, {}⟩ with
      | error fault' =>
        rw [run, run'] at alike
        exact alike.elim
      | ok w' =>
        rw [run, run'] at alike
        obtain ⟨-, -, -, pieces, out, out'⟩ := alike
        simp only [pure, Except.pure, out, out']
        refine ⟨rfl, rfl, pieces, ?_, ?_⟩ <;> simp [Rendered.followed]

end ContentQuery
