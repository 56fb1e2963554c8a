import ContentQuery.Proofs.Clauses
import ContentQuery.Proofs.Rendering.Invariance

/-!
# The skeleton of a query

How conditions are joined and negated survives in the text of a query: where no condition is an operand
of a comparison, trees with the same text have the same outline.
-/

namespace ContentQuery

variable {lx : Lexer} {d : Dialect} {env : Setting} {level : Nat} {ctx : Context} {node : Node}
  {pieces : List Piece}

/-- The outline of a tree in which every clause has the text that it is rendered as alone. -/
inductive Node.HasOutline (d : Dialect) (env : Setting) : Node → Outline → Prop
  | clause {node : Node} {r : Rendered} (clause : node.isClause = true) (alone : node.render d env = .ok r) :
      HasOutline d env node (.clause r.sql)
  | joined {op : Connective} {l r : Node} {a b : Outline} (left : HasOutline d env l a)
      (right : HasOutline d env r b) : HasOutline d env (.conjunction op l r) (.joined op a b)
  | negated {x : Node} {a : Outline} (inner : HasOutline d env x a) :
      HasOutline d env (.negation x) (.negated a)

/-! ### Texts without numbers -/

/-- Placeholders are not numbered. -/
def Dialect.IsUnnumbered (d : Dialect) : Prop :=
  ∀ seq seq' name, d.placeholder seq name = d.placeholder seq' name

theorem Dialect.Reader.isUnnumbered (h : Dialect.Reader d lx) : d.IsUnnumbered := by
  cases h <;> exact fun _ _ _ => rfl

theorem Piece.spellFrom_eq_map (unnumbered : d.IsUnnumbered) (seq : Nat) (pieces : List Piece) :
    spellFrom d seq pieces = pieces.map (spell d 1) := by
  induction pieces generalizing seq with
  | nil => rfl
  | cons p rest ih =>
    have alike : p.spell d seq = p.spell d 1 := by
      cases p with
      | param name value => exact unnumbered seq 1 name
      | _ => rfl
    rw [spellFrom, ih, List.map_cons, alike]

namespace Rendered

theorem sql_ofPieces_nil : (ofPieces d []).sql = "" := rfl

theorem sql_ofPieces_append (unnumbered : d.IsUnnumbered) (ps qs : List Piece) :
    (ofPieces d (ps ++ qs)).sql = (ofPieces d ps).sql ++ (ofPieces d qs).sql := by
  simp [ofPieces, Piece.spellFrom_eq_map unnumbered]

theorem sql_ofPieces_word (unnumbered : d.IsUnnumbered) (word : String) (ps : List Piece) :
    (ofPieces d (.word word :: ps)).sql = word ++ (ofPieces d ps).sql := by
  simp [ofPieces, Piece.spellFrom_eq_map unnumbered, Piece.spell]

end Rendered

/-! ### Outlines of renderings -/

theorem Node.isClause_settled (env : Setting) (node : Node) :
    (node.settled env).isClause = node.isClause := by
  cases node with
  | comparison op l r =>
    simp only [settled]
    split <;> split <;> rfl
  | _ => rfl

/-- The tree as it is given back has a readable outline, and the pieces are the text of it. -/
def HasReadableOutline (d : Dialect) (lx : Lexer) (env : Setting) (node : Node) (pieces : List Piece) : Prop :=
  ∃ o, (node.settled env).HasOutline d env o ∧ o.IsReadable lx ∧ (Rendered.ofPieces d pieces).sql = o.spell

theorem hasReadableOutline_of_clause (reader : Dialect.Reader d lx) (clause : node.isClause = true)
    (leaves : node.ComparesLeaves) (noFragments : node.fragments = [])
    (h : Renders env level {} node pieces ctx) : HasReadableOutline d lx env node pieces := by
  have alone : (node.settled env).render d env = .ok (.ofPieces d pieces) :=
    Node.render_eq_ok_iff.mpr ⟨pieces, ctx, h.settled.of_le (Nat.zero_le _), rfl⟩
  refine ⟨_, .clause ((Node.isClause_settled env node).trans clause) alone, ?_, rfl⟩
  have text := isClauseText_of_renders reader clause leaves noFragments rfl h 1
  rw [← String.toList_join] at text
  exact text

theorem hasReadableOutline_of_renders (reader : Dialect.Reader d lx) (leaves : node.ComparesLeaves)
    (noFragments : node.fragments = []) (h : Renders env level {} node pieces ctx) :
    HasReadableOutline d lx env node pieces := by
  have unnumbered := reader.isUnnumbered
  induction node generalizing level pieces ctx with
  | conjunction op l r ihl ihr =>
    rw [Node.fragments_conjunction, List.append_eq_nil_iff] at noFragments
    cases h with
    | conjunction room joins left right =>
      cases left.eq_empty
      obtain ⟨a, outlineLeft, readableLeft, textLeft⟩ := ihl leaves.1 noFragments.1 left
      obtain ⟨b, outlineRight, readableRight, textRight⟩ := ihr leaves.2 noFragments.2 right
      refine ⟨_, .joined outlineLeft outlineRight, ⟨readableLeft, readableRight⟩, ?_⟩
      simp only [List.cons_append, List.append_assoc, Rendered.sql_ofPieces_word unnumbered,
        Rendered.sql_ofPieces_append unnumbered, Rendered.sql_ofPieces_nil, textLeft, textRight]
      simp [Outline.spell, ← String.toList_inj]
  | negation x ih =>
    cases h with
    | negation room inner =>
      obtain ⟨a, outline, readable, text⟩ := ih leaves noFragments inner
      refine ⟨_, .negated outline, readable, ?_⟩
      simp only [List.cons_append, Rendered.sql_ofPieces_word unnumbered,
        Rendered.sql_ofPieces_append unnumbered, Rendered.sql_ofPieces_nil, text]
      simp [Outline.spell, ← String.toList_inj]
  | _ => exact hasReadableOutline_of_clause reader rfl leaves noFragments h

/-! ### Translations -/

namespace Node

theorem isLeaf_typed (schema : Schema) (node : Node) : (node.typed schema).isLeaf = node.isLeaf := by
  cases node with
  | identifier name tag => cases tag <;> rfl
  | _ => rfl

theorem isLeaf_adopt (tag : Option TypeTag) (node : Node) : (node.adopt tag).isLeaf = node.isLeaf :=
  apply_adopt (fun _ _ _ => rfl) (fun _ _ _ => rfl) tag node

theorem ComparesLeaves.typed {schema : Schema} (h : node.ComparesLeaves) :
    (node.typed schema).ComparesLeaves := by
  induction node with
  | identifier name tag => cases tag <;> exact trivial
  | constant | bindVariable | literal | function => exact trivial
  | comparison op l r =>
    simp only [Node.typed, ComparesLeaves, isLeaf_adopt, isLeaf_typed]
    exact h
  | lone op side x => exact (isLeaf_typed schema x).trans h
  | conjunction op l r ihl ihr => exact ⟨ihl h.1, ihr h.2⟩
  | negation x ih => exact ih h

end Node

namespace Engine

variable {e e' : Engine} {schema schema' : Schema} {bindings bindings' : Bindings} {node' : Node}
  {r r' : Rendered}

theorem exists_outline (reader : Dialect.Reader e.dialect lx) (leaves : node.ComparesLeaves)
    (noFragments : node.fragments = []) (h : e.translate schema bindings node = .ok r) :
    ∃ t o, e.returned? schema bindings node = .ok t ∧ t.HasOutline e.dialect ⟨bindings, e.options⟩ o ∧
      o.IsReadable lx ∧ r.sql = o.spell := by
  obtain ⟨pieces, ctx, follows, rfl⟩ := renders_of_translate h
  have unchanged := Node.fragments_typed schema node
  obtain ⟨o, outline, readable, text⟩ :=
    hasReadableOutline_of_renders reader leaves.typed (unchanged.trans noFragments) follows
  exact ⟨_, o, returned?_of_translate h, outline, readable, text⟩

/-- Queries with the same text come from trees with the same outline. -/
theorem outline_eq_of_sql_eq (reader : Dialect.Reader e.dialect lx) (dialects : e'.dialect = e.dialect)
    (leaves : node.ComparesLeaves) (noFragments : node.fragments = [])
    (leaves' : node'.ComparesLeaves) (noFragments' : node'.fragments = [])
    (h : e.translate schema bindings node = .ok r) (h' : e'.translate schema' bindings' node' = .ok r')
    (same : r.sql = r'.sql) :
    ∃ t t' o, e.returned? schema bindings node = .ok t ∧ e'.returned? schema' bindings' node' = .ok t' ∧
      t.HasOutline e.dialect ⟨bindings, e.options⟩ o ∧
      t'.HasOutline e'.dialect ⟨bindings', e'.options⟩ o ∧ r.sql = o.spell := by
  have reader' : Dialect.Reader e'.dialect lx := dialects ▸ reader
  obtain ⟨t, o, returned, outline, readable, text⟩ := exists_outline reader leaves noFragments h
  obtain ⟨t', o', returned', outline', readable', text'⟩ :=
    exists_outline reader' leaves' noFragments' h'
  have spelled : o.spell = o'.spell := text.symm.trans (same.trans text')
  obtain rfl : o = o' := Outline.eq_of_spell_eq readable readable' spelled
  exact ⟨t, t', o, returned, returned', outline, outline', text⟩

/-- A property on either side of an operator, and two ways to test it for NULL. -/
theorem outline_eq_of_sql_eq_turned :
    let age : Node := .identifier "age" none
    let five : Node := .constant (.str "5") none
    let tree : Node := .conjunction .or (.comparison .lt five age) (.negation (.lone .eq .left age))
    let other : Node :=
      .conjunction .or (.comparison .gt age five) (.negation (.comparison .eq age (.constant .null none)))
    let e : Engine := ⟨.sqlite, {}⟩
    let schema : Schema := fun _ => some .long
    ∃ r r', e.translate schema .empty tree = .ok r ∧ e.translate schema .empty other = .ok r' ∧
      r.sql = r'.sql ∧
      ∃ t t' o, e.returned? schema .empty tree = .ok t ∧ e.returned? schema .empty other = .ok t' ∧
        t.HasOutline e.dialect ⟨.empty, e.options⟩ o ∧
        t'.HasOutline e.dialect ⟨.empty, e.options⟩ o ∧ r.sql = o.spell := by
  intro age five tree other e schema
  obtain ⟨r, r', h, h', same⟩ : ∃ r r', e.translate schema .empty tree = .ok r ∧
      e.translate schema .empty other = .ok r' ∧ r.sql = r'.sql := ⟨_, _, rfl, rfl, rfl⟩
  have reader : Dialect.Reader e.dialect .standard := .sqlite
  have leaves : tree.ComparesLeaves := ⟨⟨rfl, rfl⟩, rfl⟩
  have leaves' : other.ComparesLeaves := ⟨⟨rfl, rfl⟩, rfl, rfl⟩
  exact ⟨r, r', h, h', same, outline_eq_of_sql_eq reader rfl leaves rfl leaves' rfl h h' same⟩

end Engine

end ContentQuery
