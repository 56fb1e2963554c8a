import ContentQuery.Proofs.Rendering.Segments
import ContentQuery.Proofs.Translation

/-!
# Inlining

Writing the values of variables into the query changes neither whether a translation succeeds nor
what stands around the values.
-/

namespace ContentQuery

def Setting.inlining (env : Setting) (flag : Bool) : Setting :=
  { env with options := { env.options with inlineVariables := flag } }

@[simp] theorem Setting.maxDepth_inlining (env : Setting) (flag : Bool) :
    (env.inlining flag).options.maxDepth = env.options.maxDepth := rfl

def Engine.inlining (e : Engine) (flag : Bool) : Engine :=
  { e with options := { e.options with inlineVariables := flag } }

/-- What inlining makes of a query with parameters: the same segments with literals in the places of
the placeholders. -/
structure Rendered.InlinedAs (d : Dialect) (bound inlined : Rendered) : Prop where
  noParams : inlined.params = []
  sameVerbatim : inlined.verbatim = bound.verbatim
  sameSegments : ∃ texts : List String, texts.length = bound.params.length + 1 ∧
    bound.sql = weave texts (bound.params.mapIdx fun k p => d.placeholder (k + 1) p.1) ∧
    inlined.sql = weave texts (bound.params.map fun p => d.literal p.2)

namespace Script

variable {env : Setting} {level : Nat} {ctx ctx' : Context} {node : Node} {pieces : List Piece}

theorem isNull_inlining (env : Setting) (flag : Bool) (node : Node) :
    isNull (env.inlining flag) node = isNull env node := by
  cases node <;> rfl

theorem firstFault?_inlining (env : Setting) (flag : Bool) (level : Nat) (node : Node) :
    firstFault? (env.inlining flag) level node = firstFault? env level node := by
  induction node generalizing level with
  | identifier name tag => cases tag <;> rfl
  | constant value tag => cases tag <;> rfl
  | bindVariable reference tag =>
    cases tag with
    | none => rfl
    | some tag =>
      simp only [firstFault?, ofNode, ofVariable, Setting.inlining]
      cases env.bindings (variableName reference) with
      | none => rfl
      | some v => simp only [fault?_ofValue]
  | literal | function => rfl
  | comparison op l r ihl ihr =>
    rw [firstFault?_comparison, firstFault?_comparison]
    cases l.turned r with
    | true => simp only [if_true, ihl, ihr, isNull_inlining, Setting.maxDepth_inlining]
    | false => simp only [Bool.false_eq_true, if_false, ihl, ihr, isNull_inlining, Setting.maxDepth_inlining]
  | lone op side x ih =>
    rw [firstFault?_lone, firstFault?_lone]
    simp only [ih, Setting.maxDepth_inlining]
  | conjunction op l r ihl ihr =>
    rw [firstFault?_conjunction, firstFault?_conjunction]
    simp only [ihl, ihr, Setting.maxDepth_inlining]
  | negation x ih =>
    rw [firstFault?_negation, firstFault?_negation]
    simp only [ih, Setting.maxDepth_inlining]

theorem renders_inlined (h : Renders env level ctx node pieces ctx') :
    Renders (env.inlining true) level ctx node (pieces.map Piece.inlined) ctx' := by
  induction h with
  | column level ctx name tag => exact .column level ctx name tag
  | fragment level ctx text => exact .fragment level ctx text
  | constant coerced =>
    rw [map_placed Piece.inlined_word]
    exact .constant coerced
  | @bindVariable level ctx reference v w tag bound coerced =>
    have item : (fun v => (env.item (variableName reference) v).inlined) =
        (env.inlining true).item (variableName reference) := by
      funext v
      unfold Setting.item
      split <;> rfl
    rw [map_placed Piece.inlined_word, item]
    exact .bindVariable bound coerced
  | tested room straight null test inner ih =>
    rw [List.map_append]
    exact .tested room straight ((isNull_inlining ..).trans null) test ih
  | joined room compares straight notNull left right ihl ihr =>
    rw [List.map_append, List.map_cons, Operator.map_wrap Piece.inlined_word,
      Operator.map_wrap Piece.inlined_word]
    exact .joined room compares straight ((isNull_inlining ..).trans notNull) ihl ihr
  | turned turned swapped ih => exact .turned turned ih
  | lone room test inner ih =>
    rw [List.map_append]
    exact .lone room test ih
  | conjunction room joins left right ihl ihr =>
    rw [List.map_append, List.map_append, List.map_cons, List.map_cons]
    exact .conjunction room joins ihl ihr
  | negation room inner ih =>
    rw [List.map_append, List.map_cons]
    exact .negation room ih

end Script

namespace Engine

variable {e : Engine} {schema : Schema} {bindings : Bindings} {node : Node}

theorem fault?_inlining (e : Engine) (flag : Bool) (schema : Schema) (bindings : Bindings) (node : Node) :
    (e.inlining flag).fault? schema bindings node = e.fault? schema bindings node :=
  congrArg _ (Script.firstFault?_inlining ⟨bindings, e.options⟩ flag 0 (node.typed schema))

/-- With and without inlining a translation fails alike, or both succeed and differ only in the places
of the parameters. -/
theorem translate_inlining (e : Engine) (schema : Schema) (bindings : Bindings) (node : Node) :
    match (e.inlining false).translate schema bindings node,
      (e.inlining true).translate schema bindings node with
    | .ok bound, .ok inlined => bound.InlinedAs e.dialect inlined
    | .error f, .error f' => f = f'
    | _, _ => False := by
  have faults : (e.inlining true).fault? schema bindings node =
      (e.inlining false).fault? schema bindings node :=
    (fault?_inlining ..).trans (fault?_inlining ..).symm
  cases outcome : (e.inlining false).translate schema bindings node with
  | error f =>
    have failed := translate_eq_error_iff.mpr (faults.trans (translate_eq_error_iff.mp outcome))
    rw [failed]
  | ok bound =>
    have clean := faults.trans (exists_translate_eq_ok_iff.mp ⟨bound, outcome⟩)
    obtain ⟨inlined, succeeded⟩ := exists_translate_eq_ok_iff.mpr clean
    rw [succeeded]
    obtain ⟨pieces, ctx, follows, rfl⟩ := renders_of_translate outcome
    obtain ⟨others, ctx', followsInlined, rfl⟩ := renders_of_translate succeeded
    obtain ⟨rfl, -⟩ := Script.renders_unique (Script.renders_inlined follows) followsInlined
    have spelled := Piece.join_spellFrom e.dialect 1 pieces
    simp only [Nat.add_comm 1] at spelled
    exact {
      noParams := Piece.filterMap_param?_inlined pieces
      sameVerbatim := Piece.filterMap_verbatim?_inlined pieces
      sameSegments := ⟨Piece.segments e.dialect pieces, Piece.length_segments .., spelled,
        Piece.join_spellFrom_inlined ..⟩ }

end Engine

end ContentQuery
