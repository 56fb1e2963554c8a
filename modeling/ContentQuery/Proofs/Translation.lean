import ContentQuery.Engine.Basic
import ContentQuery.Proofs.Rendering.Renders

/-!
# Translation

A translation fails with the first fault of resolution, or else of rendering. One that succeeds spells
the pieces of the typed tree.
-/

namespace ContentQuery

theorem Rendering.accept_eq_ok_iff {before after : Rendering} {t u : Node} :
    before.accept t = .ok (after, u) ↔ ∃ pieces ctx, Renders before.setting 0 {} t pieces ctx ∧
      after = { before with pieces := before.pieces ++ pieces } ∧ u = t.settled before.setting := by
  unfold accept
  constructor
  · intro h
    cases outcome : (t.script before.setting).outcome with
    | error fault =>
      rw [outcome] at h
      cases h
    | ok pieces =>
      rw [outcome] at h
      obtain ⟨clean, rfl⟩ := Trail.outcome_eq_ok_iff.mp outcome
      obtain ⟨rfl, rfl⟩ := Prod.mk.inj (Except.ok.inj h)
      exact ⟨_, _, Script.renders_of_fault?_eq_none clean, rfl, rfl⟩
  · rintro ⟨pieces, ctx, follows, rfl, rfl⟩
    have script : t.script before.setting = pieces.map .ok :=
      congrArg Prod.fst (Script.ofNode_eq_of_renders follows)
    rw [script, Trail.outcome, Trail.fault?_map_ok, Trail.steps_map_ok]
    rfl

theorem Node.render_eq (d : Dialect) (env : Setting) (node : Node) :
    node.render d env = (node.script env).outcome.map (Rendered.ofPieces d) := by
  unfold render Rendering.accept
  cases (node.script env).outcome <;> rfl

theorem Node.render_eq_ok_iff {d : Dialect} {env : Setting} {node : Node} {r : Rendered} :
    node.render d env = .ok r ↔
      ∃ pieces ctx, Renders env 0 {} node pieces ctx ∧ r = .ofPieces d pieces := by
  unfold render
  constructor
  · intro h
    cases accepted : Rendering.accept ⟨env, []⟩ node with
    | error f =>
      rw [accepted] at h
      cases h
    | ok last =>
      obtain ⟨after, u⟩ := last
      rw [accepted] at h
      obtain ⟨pieces, ctx, follows, rfl, -⟩ := Rendering.accept_eq_ok_iff.mp accepted
      exact ⟨pieces, ctx, follows, (Except.ok.inj h).symm⟩
  · rintro ⟨pieces, ctx, follows, rfl⟩
    rw [Rendering.accept_eq_ok_iff.mpr ⟨pieces, ctx, follows, rfl, rfl⟩]
    rfl

namespace Engine

variable {e : Engine} {schema : Schema} {bindings : Bindings} {node : Node}

def fault? (e : Engine) (schema : Schema) (bindings : Bindings) (node : Node) : Option QueryError :=
  (node.lookups schema e.options.maxDepth 0).fault?.or
    (Script.firstFault? ⟨bindings, e.options⟩ 0 (node.typed schema))

theorem translate_eq (e : Engine) (schema : Schema) (bindings : Bindings) (node : Node) :
    e.translate schema bindings node =
      match e.fault? schema bindings node with
      | some f => .error f
      | none =>
        .ok (.ofPieces e.dialect (Trail.steps ((node.typed schema).script ⟨bindings, e.options⟩))) := by
  unfold translate fault? Node.resolve
  cases (node.lookups schema e.options.maxDepth 0).fault? with
  | some f => rfl
  | none =>
    simp only [bind, Except.bind, Node.render_eq, Trail.outcome, Node.script, Option.none_or]
    rw [Script.fault?_ofNode]
    cases Script.firstFault? ⟨bindings, e.options⟩ 0 (node.typed schema) <;> rfl

theorem translate_eq_error_iff {f : QueryError} :
    e.translate schema bindings node = .error f ↔ e.fault? schema bindings node = some f := by
  rw [translate_eq]
  cases e.fault? schema bindings node <;> simp

theorem fault?_eq_none_iff :
    e.fault? schema bindings node = none ↔
      (node.lookups schema e.options.maxDepth 0).fault? = none ∧
        Script.firstFault? ⟨bindings, e.options⟩ 0 (node.typed schema) = none :=
  Option.or_eq_none_iff

theorem exists_translate_eq_ok_iff :
    (∃ r, e.translate schema bindings node = .ok r) ↔ e.fault? schema bindings node = none := by
  rw [translate_eq]
  cases e.fault? schema bindings node <;> simp

theorem translate_eq_ok_iff {r : Rendered} : e.translate schema bindings node = .ok r ↔
    (node.lookups schema e.options.maxDepth 0).fault? = none ∧
      ∃ pieces ctx, Renders ⟨bindings, e.options⟩ 0 {} (node.typed schema) pieces ctx ∧
        r = .ofPieces e.dialect pieces := by
  unfold translate Node.resolve
  cases (node.lookups schema e.options.maxDepth 0).fault? with
  | some f => simp [bind, Except.bind]
  | none =>
    rw [and_iff_right rfl]
    exact Node.render_eq_ok_iff

/-- The tree that is given back beside a query: typed, and as it was rendered. -/
def returned? (e : Engine) (schema : Schema) (bindings : Bindings) (node : Node) :
    Except QueryError Node := do
  let resolved ← node.resolve schema e.options.maxDepth
  let (_, returned) ← Rendering.accept ⟨⟨bindings, e.options⟩, []⟩ resolved
  return returned

theorem returned?_of_translate {r : Rendered} (h : e.translate schema bindings node = .ok r) :
    e.returned? schema bindings node = .ok ((node.typed schema).settled ⟨bindings, e.options⟩) := by
  unfold translate Node.resolve at h
  unfold returned? Node.resolve
  cases fault : (node.lookups schema e.options.maxDepth 0).fault? with
  | some f =>
    rw [fault] at h
    cases h
  | none =>
    simp only [fault, bind, Except.bind, Node.render_eq] at h
    simp only [bind, Except.bind, Rendering.accept]
    cases outcome : ((node.typed schema).script ⟨bindings, e.options⟩).outcome with
    | error f =>
      rw [outcome] at h
      cases h
    | ok pieces => rfl

/-- A translation that succeeds spells a rendering of the typed tree. -/
theorem renders_of_translate {r : Rendered} (h : e.translate schema bindings node = .ok r) :
    ∃ pieces ctx, Renders ⟨bindings, e.options⟩ 0 {} (node.typed schema) pieces ctx ∧
      r = .ofPieces e.dialect pieces := by
  have clean := exists_translate_eq_ok_iff.mp ⟨r, h⟩
  have follows : Renders ⟨bindings, e.options⟩ 0 {} (node.typed schema) _ _ :=
    Script.renders_of_fault?_eq_none ((Script.fault?_ofNode ..).trans (fault?_eq_none_iff.mp clean).2)
  rw [translate_eq, clean] at h
  exact ⟨_, _, follows, (Except.ok.inj h).symm⟩

end Engine

end ContentQuery
