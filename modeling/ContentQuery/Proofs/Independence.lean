import ContentQuery.Dialect.Builtin
import ContentQuery.Proofs.Translation
import ContentQuery.Proofs.VariableUses

/-!
# Independence of bound values

Of a bound value only two things reach the text of a query with parameters: whether it is NULL, and how
many elements it has where it is rendered as the list of an `IN`.
-/

namespace ContentQuery

/-! ### Pieces without values -/

def Piece.masked : Piece → Piece
  | param name _ => param name .null
  | p => p

namespace Piece

theorem masked_word (text : String) : (word text).masked = word text := rfl

theorem spellFrom_masked (d : Dialect) (seq : Nat) (pieces : List Piece) :
    spellFrom d seq (pieces.map masked) = spellFrom d seq pieces := by
  induction pieces generalizing seq with
  | nil => rfl
  | cons p rest ih =>
    rw [List.map_cons, spellFrom, spellFrom, ih]
    cases p <;> rfl

theorem verbatim?_masked (pieces : List Piece) :
    (pieces.map masked).filterMap verbatim? = pieces.filterMap verbatim? := by
  rw [List.filterMap_map]
  congr 1
  funext p
  cases p <;> rfl

theorem paramName?_masked (pieces : List Piece) :
    (pieces.map masked).filterMap paramName? = pieces.filterMap paramName? := by
  rw [List.filterMap_map]
  congr 1
  funext p
  cases p <;> rfl

end Piece

namespace Script

/-- With one item for all values, only the width of a list shows. -/
theorem placed_const (inList : Bool) (p : Piece) (v : Value) :
    placed inList (fun _ => p) v = placed inList (fun _ => p) (.list (List.replicate v.width .null)) := by
  cases inList with
  | false => rfl
  | true =>
    cases v with
    | list items =>
      cases items with
      | nil => rfl
      | cons w rest => simp [placed, Value.width, List.replicate_succ, List.map_const']
    | _ => rfl

theorem masked_placed {inList : Bool} {name : String} {v w : Value}
    (h : inList = true → v.width = w.width) :
    (placed inList (.param name) v).map Piece.masked =
      (placed inList (.param name) w).map Piece.masked := by
  rw [map_placed Piece.masked_word, map_placed Piece.masked_word]
  cases inList with
  | false => rfl
  | true =>
    simp only [Piece.masked]
    rw [placed_const, h rfl, ← placed_const]

end Script

/-! ### Two settings -/

/-- The settings agree on which variables of the node are NULL. -/
def SameNulls (env env' : Setting) (node : Node) : Prop :=
  ∀ name ∈ node.variableNames, (env.bindings name = some .null ↔ env'.bindings name = some .null)

namespace SameNulls

variable {env env' : Setting} {l r x : Node} {op : Operator}

theorem comparison_iff :
    SameNulls env env' (.comparison op l r) ↔ SameNulls env env' l ∧ SameNulls env env' r := by
  unfold SameNulls
  rw [Node.variableNames_comparison, List.forall_mem_append]

theorem conjunction_iff {op : Connective} :
    SameNulls env env' (.conjunction op l r) ↔ SameNulls env env' l ∧ SameNulls env env' r := by
  unfold SameNulls
  rw [Node.variableNames_conjunction, List.forall_mem_append]

theorem swap (h : SameNulls env env' (.comparison op l r)) :
    SameNulls env env' (.comparison op.reverse r l) :=
  comparison_iff.mpr (comparison_iff.mp h).symm

theorem isNull_eq (h : SameNulls env env' x) : Script.isNull env x = Script.isNull env' x := by
  cases x with
  | bindVariable reference tag =>
    have null (e : Setting) : Script.isNull e (.bindVariable reference tag) = true ↔
        e.bindings (variableName reference) = some .null := by
      simp only [Script.isNull]
      cases e.bindings (variableName reference) with
      | none => simp
      | some v => cases v <;> simp [Value.isNull]
    rw [Bool.eq_iff_iff, null, null]
    exact h _ (List.mem_filterMap.mpr ⟨_, Node.mem_subnodes_self _, rfl⟩)
  | _ => rfl

/-- The tree that is given back is the same. -/
theorem settled_eq (h : SameNulls env env' x) : x.settled env = x.settled env' := by
  induction x with
  | identifier | constant | bindVariable | literal | function => rfl
  | comparison op l r ihl ihr =>
    obtain ⟨left, right⟩ := comparison_iff.mp h
    simp only [Node.settled, ihl left, ihr right, left.isNull_eq, right.isNull_eq]
  | lone op side x ih => simp only [Node.settled, ih h]
  | conjunction op l r ihl ihr =>
    obtain ⟨left, right⟩ := conjunction_iff.mp h
    simp only [Node.settled, ihl left, ihr right]
  | negation x ih => simp only [Node.settled, ih h]

end SameNulls

/-- Each variable that is rendered as a list has as many elements in both settings. -/
def SameWidths (env env' : Setting) (uses : List VariableUse) : Prop :=
  ∀ v ∈ uses, v.inList = true → env.bindings.width v.name = env'.bindings.width v.name

variable {env env' : Setting} {level : Nat} {ctx ctx₁ ctx₂ : Context} {node : Node}
  {pieces others : List Piece}

theorem SameWidths.append_iff {uses uses' : List VariableUse} :
    SameWidths env env' (uses ++ uses') ↔ SameWidths env env' uses ∧ SameWidths env env' uses' :=
  List.forall_mem_append

/-- Two renderings of a node differ only in the values of their parameters, where the settings agree on what
is NULL and how long the lists are. -/
theorem Script.masked_eq_of_renders (h : Renders env level ctx node pieces ctx₁)
    (h' : Renders env' level ctx node others ctx₂) (off : env.options.inlineVariables = false)
    (off' : env'.options.inlineVariables = false) (nulls : SameNulls env env' node) {isList : Bool}
    (widths : SameWidths env env' ((node.settled env).usesIn isList ctx.inList)) :
    pieces.map Piece.masked = others.map Piece.masked ∧ ctx₁ = ctx₂ := by
  -- The second rendering follows the same rule as the first, because the settings agree on what is NULL.
  induction h generalizing others ctx₂ isList with
  | column level ctx name tag =>
    cases h'
    exact ⟨rfl, rfl⟩
  | fragment level ctx text =>
    cases h'
    exact ⟨rfl, rfl⟩
  | constant coerced =>
    cases h' with
    | constant coerced' =>
      cases coerced.symm.trans coerced'
      exact ⟨rfl, rfl⟩
  | @bindVariable level ctx reference v w tag bound coerced =>
    cases h' with
    | @bindVariable _ _ _ v' w' _ bound' coerced' =>
      refine ⟨?_, rfl⟩
      simp only [Setting.item, off, off', Bool.false_eq_true, if_false]
      refine masked_placed fun inList => ?_
      rw [Context.width_prepare, Context.width_prepare, Value.width_coerce coerced,
        Value.width_coerce coerced']
      simpa [Bindings.width, bound, bound'] using widths _ (List.mem_singleton_self _) inList
  | tested room straight null test inner ih =>
    obtain ⟨left, right⟩ := SameNulls.comparison_iff.mp nulls
    rw [Node.settled_comparison, straight, null] at widths
    cases h' with
    | tested _ _ _ test' inner' =>
      cases test.symm.trans test'
      obtain ⟨same, rfl⟩ := ih inner' left widths
      exact ⟨by rw [List.map_append, same, List.map_append], rfl⟩
    | joined _ _ _ notNull' => simp [← right.isNull_eq, null] at notNull'
    | turned turned' => simp [straight] at turned'
  | @joined level ctx ctx₁ ctx₃ op l r ps qs room compares straight notNull left right ihl ihr =>
    obtain ⟨nullsLeft, nullsRight⟩ := SameNulls.comparison_iff.mp nulls
    rw [Node.settled_comparison, straight, notNull] at widths
    obtain ⟨widthsLeft, widthsRight⟩ := SameWidths.append_iff.mp widths
    rw [Operator.inList_enter] at ihl ihr
    cases h' with
    | tested _ _ null' => simp [← nullsRight.isNull_eq, notNull] at null'
    | joined _ _ _ _ left' right' =>
      obtain ⟨sameLeft, rfl⟩ := ihl left' nullsLeft widthsLeft
      obtain ⟨sameRight, rfl⟩ := ihr right' nullsRight widthsRight
      refine ⟨?_, rfl⟩
      rw [List.map_append, List.map_append, List.map_cons, List.map_cons,
        Operator.map_wrap Piece.masked_word, Operator.map_wrap Piece.masked_word,
        Operator.map_wrap Piece.masked_word, Operator.map_wrap Piece.masked_word, sameLeft, sameRight]
    | turned turned' => simp [straight] at turned'
  | turned turned swapped ih =>
    rw [Node.settled_comparison, turned] at widths
    cases h' with
    | tested _ straight' => simp [turned] at straight'
    | joined _ _ straight' => simp [turned] at straight'
    | turned _ swapped' => exact ih swapped' nulls.swap widths
  | lone room test inner ih =>
    cases h' with
    | lone _ test' inner' =>
      cases test.symm.trans test'
      obtain ⟨same, rfl⟩ := ih inner' nulls widths
      exact ⟨by rw [List.map_append, same, List.map_append], rfl⟩
  | conjunction room joins left right ihl ihr =>
    obtain ⟨nullsLeft, nullsRight⟩ := SameNulls.conjunction_iff.mp nulls
    obtain ⟨widthsLeft, widthsRight⟩ := SameWidths.append_iff.mp widths
    rw [← left.inList_eq] at widthsRight
    cases h' with
    | conjunction _ _ left' right' =>
      obtain ⟨sameLeft, rfl⟩ := ihl left' nullsLeft widthsLeft
      obtain ⟨sameRight, rfl⟩ := ihr right' nullsRight widthsRight
      exact ⟨by simp [sameLeft, sameRight], rfl⟩
  | negation room inner ih =>
    cases h' with
    | negation _ inner' =>
      obtain ⟨same, rfl⟩ := ih inner' nulls widths
      exact ⟨by simp [same], rfl⟩

/-! ### Two queries -/

/-- The queries have the same text, the same fragments and the same parameter names. -/
structure Rendered.Alike (r r' : Rendered) : Prop where
  sql : r.sql = r'.sql
  verbatim : r.verbatim = r'.verbatim
  names : r.params.map Prod.fst = r'.params.map Prod.fst

/-- Pieces that differ only in the values of parameters are spelled alike. -/
theorem Rendered.alike_of_masked_eq (d : Dialect) (same : pieces.map Piece.masked = others.map Piece.masked) :
    (Rendered.ofPieces d pieces).Alike (.ofPieces d others) where
  sql := by
    show String.join (Piece.spellFrom d 1 pieces) = String.join (Piece.spellFrom d 1 others)
    rw [← Piece.spellFrom_masked, same, Piece.spellFrom_masked]
  verbatim := by
    show pieces.filterMap Piece.verbatim? = others.filterMap Piece.verbatim?
    rw [← Piece.verbatim?_masked, same, Piece.verbatim?_masked]
  names := by
    rw [Rendered.names_ofPieces, Rendered.names_ofPieces, ← Piece.paramName?_masked, same,
      Piece.paramName?_masked]

/-- The names tell how many elements each variable has that is rendered as a list. -/
theorem Bindings.paramNames_inList_eq_iff {b b' : Bindings} {uses : List VariableUse} :
    b.paramNames VariableUse.inList uses = b'.paramNames VariableUse.inList uses ↔
      ∀ v ∈ uses, v.inList = true → b.width v.name = b'.width v.name := by
  have ordered : ∀ v ∈ uses,
      (∀ w ∈ uses, w.name = v.name → b.paramCount VariableUse.inList w ≤ b'.paramCount VariableUse.inList w) ∨
      ∀ w ∈ uses, w.name = v.name → b'.paramCount VariableUse.inList w ≤ b.paramCount VariableUse.inList w := by
    intro v _
    unfold paramCount
    rcases Nat.le_total (b.width v.name) (b'.width v.name) with le | ge
    · refine .inl fun w _ same => ?_
      rw [same]
      split <;> omega
    · refine .inr fun w _ same => ?_
      rw [same]
      split <;> omega
  unfold paramNames
  rw [flatMap_replicate_eq_iff ordered]
  refine forall₂_congr fun v mem => ?_
  unfold paramCount
  cases v.inList <;> simp

namespace Engine

/-- With parameters, two bindings that agree on what is NULL give back the same tree. Their queries are alike
just if each right operand of an `IN` in that tree has as many elements under both, provided that so has each
variable that only stands inside of one. For a tree as it is built, or resolved, it is enough that so have the
variables opposite a property in an `IN`. -/
theorem translate_independent {e : Engine} {schema : Schema} {b b' : Bindings} {r r' : Rendered}
    (bound : e.options.inlineVariables = false)
    (nulls : ∀ name ∈ node.variableNames, (b name = some .null ↔ b' name = some .null))
    (h : e.translate schema b node = .ok r) (h' : e.translate schema b' node = .ok r') :
    ∃ u, e.returned? schema b node = .ok u ∧ e.returned? schema b' node = .ok u ∧
      ((∀ v ∈ u.variableUses, v.isStray = true → b.width v.name = b'.width v.name) →
        (r.Alike r' ↔ ∀ v ∈ u.variableUses, v.isList = true → b.width v.name = b'.width v.name)) ∧
      (node.TypesOpposite → (∀ name ∈ node.listVariables, b.width name = b'.width name) → r.Alike r') := by
  have given := returned?_of_translate h
  have given' := returned?_of_translate h'
  obtain ⟨pieces, ctx, follows, rfl⟩ := renders_of_translate h
  obtain ⟨others, ctx', follows', rfl⟩ := renders_of_translate h'
  have nulls : SameNulls ⟨b, e.options⟩ ⟨b', e.options⟩ (node.typed schema) := by
    unfold SameNulls
    rwa [Node.variableNames_typed]
  rw [← nulls.settled_eq] at given'
  have alike (widths : SameWidths ⟨b, e.options⟩ ⟨b', e.options⟩
      ((node.typed schema).settled ⟨b, e.options⟩).variableUses) :
      (Rendered.ofPieces e.dialect pieces).Alike (.ofPieces e.dialect others) :=
    Rendered.alike_of_masked_eq _ (Script.masked_eq_of_renders follows follows' bound bound nulls widths).1
  refine ⟨_, given, given', fun strays => ⟨fun same v mem list => ?_, fun lists => ?_⟩, ?_⟩
  · have names := same.names
    rw [Rendered.names_ofPieces, Rendered.names_ofPieces, follows.paramName?_eq bound false,
      follows'.paramName?_eq bound false, ← nulls.settled_eq] at names
    exact Bindings.paramNames_inList_eq_iff.mp names v mem (Node.inList_of_isList (by simp) mem list)
  · refine alike fun v mem listed => ?_
    cases list : v.isList with
    | true => exact lists v mem list
    | false => exact strays v mem (by simp [VariableUse.isStray, listed, list])
  · intro types widths
    have typed : (node.typed schema).TypesOpposite := types.typed
    refine alike fun v mem listed => ?_
    have own : (node.typed schema).listVariables ⊆ node.listVariables := by
      rw [Node.listVariables_typed]
      exact List.Subset.refl _
    exact widths _ (follows.isList_of_inList typed.parts own (by simp [typed.root]) mem listed).2

/-- A variable that was typed opposite a property can be compared with a constant later. As the list of an
`IN` it is written with as many parameters as it has elements there too. -/
theorem translate_dependent :
    let e : Engine := ⟨.ansi, {}⟩
    let known : Schema := fun _ => some .long
    let x : Node := .bindVariable ":x" (some .long)
    let five : Node := .ofInteger (.int ⟨.i32, 5, by decide, by decide⟩)
    let tree : Node := .comparison .isIn five x
    let b : Bindings := fun _ => some (.list [.str "1"])
    let b' : Bindings := fun _ => some (.list [.str "1", .str "2"])
    (Node.comparison .isIn (.identifier "age" none) (.bindVariable ":x" none)).resolve known 64 =
        .ok (.comparison .isIn (.identifier "age" (some .long)) x) ∧
      (∀ name ∈ tree.variableNames, b name ≠ some .null ∧ b' name ≠ some .null) ∧
      tree.listVariables = [] ∧
      ∃ r r', e.translate known b tree = .ok r ∧ e.translate known b' tree = .ok r' ∧
        r.sql = "5 IN (?)" ∧ r'.sql = "5 IN (?, ?)" := by
  intro e known x five tree b b'
  obtain ⟨r, h, sql⟩ : ∃ r, e.translate known b tree = .ok r ∧ r.sql = "5 IN (?)" := ⟨_, rfl, by decide⟩
  obtain ⟨r', h', sql'⟩ : ∃ r, e.translate known b' tree = .ok r ∧ r.sql = "5 IN (?, ?)" :=
    ⟨_, rfl, by decide⟩
  exact ⟨rfl, by simp [b, b'], rfl, r, r', h, h', sql, sql'⟩

/-- Two lists of two names, one with an apostrophe. -/
theorem translate_independent_list :
    let query : Node := .comparison .isIn (.identifier "name" none) (.bindVariable ":names" none)
    let translated (names : List Value) :=
      (⟨.ansi, {}⟩ : Engine).translate (fun _ => some .string) (fun _ => some (.list names)) query
    ∃ r r', translated [.str "Ada", .str "Eve"] = .ok r ∧ translated [.str "O'Hara", .null] = .ok r' ∧
      r.Alike r' := by
  intro query translated
  obtain ⟨r, h⟩ : ∃ r, translated [.str "Ada", .str "Eve"] = .ok r := ⟨_, rfl⟩
  obtain ⟨r', h'⟩ : ∃ r', translated [.str "O'Hara", .null] = .ok r' := ⟨_, rfl⟩
  obtain ⟨u, given, -, exact, -⟩ := translate_independent rfl (by simp) h h'
  obtain rfl := Except.ok.inj given
  exact ⟨r, r', h, h', (exact (by decide)).mpr (by decide)⟩

end Engine

end ContentQuery
