import ContentQuery.Rendering.Piece

/-!
# Segments of a query

The text of a query is the text of its segments with something between any two: the placeholders of
its parameters, or their values once they are inlined. The segments are the same for both.
-/

namespace ContentQuery

def weave : List String → List String → String
  | [], _ => ""
  | t :: _, [] => t
  | t :: texts, m :: marks => t ++ (m ++ weave texts marks)

theorem weave_modifyHead {texts : List String} (ne : texts ≠ []) (s : String) (marks : List String) :
    weave (texts.modifyHead (s ++ ·)) marks = s ++ weave texts marks := by
  cases texts with
  | nil => exact absurd rfl ne
  | cons t texts =>
    cases marks with
    | nil => rfl
    | cons m marks => simp only [List.modifyHead_cons, weave, String.append_assoc]

namespace Piece

/-- The texts between the parameters. Other pieces have no number, so that it does not matter which
one they are spelled with. -/
def segments (d : Dialect) : List Piece → List String
  | [] => [""]
  | param _ _ :: rest => "" :: segments d rest
  | p :: rest => (segments d rest).modifyHead (p.spell d 0 ++ ·)

theorem segments_ne_nil (d : Dialect) (pieces : List Piece) : segments d pieces ≠ [] := by
  induction pieces with
  | nil => simp [segments]
  | cons p rest ih =>
    cases p with
    | param => simp [segments]
    | _ => simpa [segments] using ih

theorem length_segments (d : Dialect) (pieces : List Piece) :
    (segments d pieces).length = (pieces.filterMap param?).length + 1 := by
  induction pieces with
  | nil => rfl
  | cons p rest ih =>
    cases p with
    | param name value => simp [segments, param?, ih]
    | _ =>
      rw [List.filterMap_cons_none rfl]
      simpa [segments] using ih

/-- Placeholders stand between the segments, numbered from `seq`. -/
theorem join_spellFrom (d : Dialect) (seq : Nat) (pieces : List Piece) :
    String.join (spellFrom d seq pieces) = weave (segments d pieces)
      ((pieces.filterMap param?).mapIdx fun k p => d.placeholder (seq + k) p.1) := by
  induction pieces generalizing seq with
  | nil => rfl
  | cons p rest ih =>
    rw [spellFrom, String.join_cons, ih]
    cases p with
    | param name value =>
      have shift : ∀ k, seq + 1 + k = seq + (k + 1) := by omega
      simp [segments, param?, spell, weave, List.mapIdx_cons, shift]
    | _ =>
      rw [List.filterMap_cons_none rfl, segments, weave_modifyHead (segments_ne_nil d rest)]
      · rfl
      · simp

/-- The piece with the value of its parameter written into the query. -/
def inlined : Piece → Piece
  | param _ value => constant value
  | p => p

theorem inlined_word (text : String) : (word text).inlined = word text := rfl

theorem filterMap_param?_inlined (pieces : List Piece) : (pieces.map inlined).filterMap param? = [] := by
  rw [List.filterMap_map, List.filterMap_eq_nil_iff]
  intro p _
  cases p <;> rfl

theorem filterMap_verbatim?_inlined (pieces : List Piece) :
    (pieces.map inlined).filterMap verbatim? = pieces.filterMap verbatim? := by
  rw [List.filterMap_map]
  congr 1
  funext p
  cases p <;> rfl

/-- Values stand between the same segments. -/
theorem join_spellFrom_inlined (d : Dialect) (seq : Nat) (pieces : List Piece) :
    String.join (spellFrom d seq (pieces.map inlined)) = weave (segments d pieces)
      ((pieces.filterMap param?).map fun p => d.literal p.2) := by
  induction pieces generalizing seq with
  | nil => rfl
  | cons p rest ih =>
    rw [List.map_cons, spellFrom, String.join_cons, ih]
    cases p with
    | param name value => simp [segments, param?, spell, inlined, weave]
    | _ =>
      rw [List.filterMap_cons_none rfl, segments, weave_modifyHead (segments_ne_nil d rest)]
      · rfl
      · simp

end Piece

end ContentQuery
