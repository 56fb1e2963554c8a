import ContentQuery.Dialect.Builtin
import ContentQuery.Proofs.Rendering.Segments
import ContentQuery.Proofs.Translation
import ContentQuery.Rendering.Basic

/-!
# Numbers of parameters

Trees that are rendered one after the other into one query share its parameters. The placeholders count
from one through all the trees, and stand between texts in which no placeholder has a part.
-/

namespace ContentQuery

variable {d : Dialect} {env : Setting}

/-! ### Texts without placeholders -/

/-- The dialect with other placeholders. -/
def Dialect.marking (d : Dialect) (placeholder : Nat → String → String) : Dialect :=
  { d with placeholder }

theorem Dialect.literal_marking (placeholder : Nat → String → String) (v : Value) :
    (d.marking placeholder).literal v = d.literal v := by
  induction v with
  | list items ih =>
    have same : items.map (d.marking placeholder).literal = items.map d.literal :=
      List.map_congr_left ih
    rw [literal, literal, literals_eq_map, literals_eq_map, same]
  | _ => rfl

theorem Piece.segments_marking (placeholder : Nat → String → String) (pieces : List Piece) :
    segments (d.marking placeholder) pieces = segments d pieces := by
  induction pieces with
  | nil => rfl
  | cons p rest ih =>
    cases p with
    | param name value => rw [segments, segments, ih]
    | constant value =>
      have same : (constant value).spell (d.marking placeholder) 0 = (constant value).spell d 0 :=
        Dialect.literal_marking placeholder value
      rw [segments, segments, ih, same] <;> simp
    | word | column | verbatim => simp only [segments, ih]; rfl

/-! ### Writing on -/

namespace Rendered

theorem params_ofPieces_append (ps qs : List Piece) :
    (ofPieces d (ps ++ qs)).params = (ofPieces d ps).params ++ qs.filterMap Piece.param? :=
  List.filterMap_append

/-- What is written behind a query has its parameters numbered from the next number. -/
theorem sql_ofPieces_append_weave (ps qs : List Piece) :
    (ofPieces d (ps ++ qs)).sql = (ofPieces d ps).sql ++ weave (Piece.segments d qs)
      ((qs.filterMap Piece.param?).mapIdx fun k p =>
        d.placeholder ((ofPieces d ps).params.length + k + 1) p.1) := by
  have count : ∀ k, 1 + (ps.filterMap Piece.param?).length + k =
      (ofPieces d ps).params.length + k + 1 := by
    intro k
    simp only [ofPieces]
    omega
  simp only [ofPieces, Piece.spellFrom_append, String.join_append, Piece.join_spellFrom, count]

end Rendered

/-! ### One tree after the other -/

namespace Rendering

variable {r last : Rendering} {node tree : Node} {nodes trees : List Node}

/-- Renders trees in order, and gives the trees as they were rendered. -/
def acceptAll (r : Rendering) : List Node → Except QueryError (Rendering × List Node)
  | [] => .ok (r, [])
  | node :: rest =>
    match r.accept node with
    | .error e => .error e
    | .ok (next, tree) => (acceptAll next rest).map fun (last, trees) => (last, tree :: trees)

theorem exists_pieces_of_accept (h : r.accept node = .ok (last, tree)) :
    ∃ pieces, last = { r with pieces := r.pieces ++ pieces } := by
  obtain ⟨pieces, -, -, rfl, -⟩ := accept_eq_ok_iff.mp h
  exact ⟨pieces, rfl⟩

theorem acceptAll_cons_eq_ok (h : r.acceptAll (node :: nodes) = .ok (last, trees)) :
    ∃ next tree rest, r.accept node = .ok (next, tree) ∧ next.acceptAll nodes = .ok (last, rest) ∧
      trees = tree :: rest := by
  rw [acceptAll] at h
  cases first : r.accept node with
  | error e => simp [first] at h
  | ok accepted =>
    obtain ⟨next, tree⟩ := accepted
    simp only [first] at h
    cases others : next.acceptAll nodes with
    | error e => simp [others, Except.map] at h
    | ok accepted =>
      obtain ⟨final, rest⟩ := accepted
      simp only [others, Except.map, Except.ok.injEq, Prod.mk.injEq] at h
      obtain ⟨rfl, rfl⟩ := h
      exact ⟨next, tree, rest, rfl, others, rfl⟩

/-- Nothing that was written is changed by what comes later. -/
theorem exists_pieces_of_acceptAll (h : r.acceptAll nodes = .ok (last, trees)) :
    ∃ pieces, last = { r with pieces := r.pieces ++ pieces } := by
  induction nodes generalizing r trees with
  | nil =>
    obtain ⟨rfl, -⟩ := Prod.mk.inj (Except.ok.inj h)
    exact ⟨[], by simp⟩
  | cons node nodes ih =>
    obtain ⟨next, tree, rest, first, others, -⟩ := acceptAll_cons_eq_ok h
    obtain ⟨here, rfl⟩ := exists_pieces_of_accept first
    obtain ⟨later, rfl⟩ := ih others
    exact ⟨here ++ later, by simp⟩

theorem acceptAll_append_eq_ok {more : List Node} (h : r.acceptAll (nodes ++ more) = .ok (last, trees)) :
    ∃ next rest, r.acceptAll nodes = .ok (next, trees.take nodes.length) ∧
      next.acceptAll more = .ok (last, rest) := by
  induction nodes generalizing r trees with
  | nil => exact ⟨r, trees, rfl, h⟩
  | cons node nodes ih =>
    rw [List.cons_append] at h
    obtain ⟨next, tree, rest, first, others, rfl⟩ := acceptAll_cons_eq_ok h
    obtain ⟨middle, later, before, behind⟩ := ih others
    refine ⟨middle, later, ?_, behind⟩
    rw [acceptAll, first]
    simp [before, Except.map]

end Rendering

/-- The query that trees become which are rendered one after the other, and the trees as they were
rendered. -/
def renderAll (d : Dialect) (env : Setting) (nodes : List Node) : Except QueryError (Rendered × List Node) :=
  (Rendering.acceptAll ⟨env, []⟩ nodes).map fun (r, trees) => (r.finish d, trees)

theorem renderAll_eq_ok_iff {nodes trees : List Node} {out : Rendered} :
    renderAll d env nodes = .ok (out, trees) ↔
      ∃ r, Rendering.acceptAll ⟨env, []⟩ nodes = .ok (r, trees) ∧ out = r.finish d := by
  unfold renderAll
  cases Rendering.acceptAll ⟨env, []⟩ nodes with
  | error e => simp [Except.map]
  | ok accepted =>
    obtain ⟨r, others⟩ := accepted
    simp only [Except.map, Except.ok.injEq, Prod.mk.injEq]
    constructor
    · rintro ⟨rfl, rfl⟩
      exact ⟨r, ⟨rfl, rfl⟩, rfl⟩
    · rintro ⟨r, ⟨rfl, rfl⟩, rfl⟩
      exact ⟨rfl, rfl⟩

/-- With any placeholders the trees become the same texts, with placeholders between them that count the
parameters from one. What is rendered later goes on with the next number. -/
theorem renderAll_numbers {nodes trees : List Node} {out : Rendered}
    (h : renderAll d env nodes = .ok (out, trees)) :
    (∃ texts : List String, texts.length = out.params.length + 1 ∧ ∀ placeholder,
      renderAll (d.marking placeholder) env nodes =
        .ok (⟨weave texts (out.params.mapIdx fun k p => placeholder (k + 1) p.1), out.params,
          out.verbatim⟩, trees)) ∧
    ∀ first rest, nodes = first ++ rest → ∃ part texts params,
      renderAll d env first = .ok (part, trees.take first.length) ∧
        out.params = part.params ++ params ∧ texts.length = params.length + 1 ∧
          out.sql = part.sql ++
            weave texts (params.mapIdx fun k p => d.placeholder (part.params.length + k + 1) p.1) := by
  obtain ⟨r, accepted, rfl⟩ := renderAll_eq_ok_iff.mp h
  constructor
  · refine ⟨Piece.segments d r.pieces, Piece.length_segments d r.pieces, fun placeholder => ?_⟩
    rw [renderAll_eq_ok_iff]
    refine ⟨r, accepted, ?_⟩
    have spelled := Piece.join_spellFrom (d.marking placeholder) 1 r.pieces
    rw [Piece.segments_marking] at spelled
    simp only [Rendering.finish, Rendered.ofPieces, spelled, Nat.add_comm 1]
    rfl
  · rintro first rest rfl
    obtain ⟨next, later, before, behind⟩ := Rendering.acceptAll_append_eq_ok accepted
    obtain ⟨pieces, rfl⟩ := Rendering.exists_pieces_of_acceptAll behind
    refine ⟨next.finish d, Piece.segments d pieces, pieces.filterMap Piece.param?, ?_, ?_,
      Piece.length_segments d pieces, ?_⟩
    · exact renderAll_eq_ok_iff.mpr ⟨next, before, rfl⟩
    · exact Rendered.params_ofPieces_append next.pieces pieces
    · exact Rendered.sql_ofPieces_append_weave next.pieces pieces

/-- A parameter, the same one again, and a list. -/
theorem renderAll_numbers_list :
    let age : Node := .identifier "age" (some .long)
    let one : Node := .comparison .ge age (.bindVariable ":min" (some .long))
    let list : Node := .comparison .isIn age (.bindVariable ":all" (some .long))
    let env : Setting := ⟨fun name =>
      if name = "min" then some (.str "18") else some (.list [.str "1", .str "2"]), {}⟩
    ∃ out trees texts v w x y, renderAll .ansi env [one, one, list] = .ok (out, trees) ∧
      texts.length = 5 ∧ out.params = [("min", v), ("min", w), ("all", x), ("all", y)] ∧
        ∀ placeholder, renderAll (Dialect.ansi.marking placeholder) env [one, one, list] =
          .ok (⟨weave texts [placeholder 1 "min", placeholder 2 "min", placeholder 3 "all",
            placeholder 4 "all"], out.params, out.verbatim⟩, trees) := by
  intro age one list env
  obtain ⟨out, trees, v, w, x, y, h, params⟩ : ∃ out trees v w x y,
      renderAll .ansi env [one, one, list] = .ok (out, trees) ∧
        out.params = [("min", v), ("min", w), ("all", x), ("all", y)] :=
    ⟨_, _, _, _, _, _, rfl, rfl⟩
  obtain ⟨⟨texts, count, same⟩, -⟩ := renderAll_numbers h
  refine ⟨out, trees, texts, v, w, x, y, h, ?_, params, fun placeholder => ?_⟩
  · rw [count, params]
    rfl
  · rw [same, params]
    rfl

end ContentQuery
