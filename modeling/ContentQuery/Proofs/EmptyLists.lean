import ContentQuery.Proofs.Coercion
import ContentQuery.Proofs.Injection
import ContentQuery.Proofs.VariableUses

/-!
# Empty lists

The list of an `IN` that is empty becomes a list of NULL. Every other empty list is written as it is, in the
list of an `IN` as well, and nothing else in a query looks like one.
-/

namespace ContentQuery

open Script

variable {lx : Lexer} {d : Dialect} {env : Setting} {level : Nat} {ctx ctx' : Context} {node : Node}
  {op : Operator} {ps qs pieces : List Piece}

/-! ### Values -/

namespace Value

variable {v w : Value} {tag : TypeTag}

theorem shape_coerce (coerced : v.coerce tag = .ok w) : w.shape = v.shape := by
  obtain ⟨none, rfl⟩ := coerce_eq_ok_iff.mp coerced
  refine shape_mapLeaves fun x mem => ?_
  have taken : x.isRefused tag = false := by simpa using List.find?_eq_none.mp none x mem
  exact isLeaf_of_isCanonical (coerce_converted (isLeaf_of_mem_leaves mem) taken).2

theorem foldCaseAll_eq_map (items : List Value) : foldCaseAll items = items.map foldCase := by
  induction items with
  | nil => rfl
  | cons v rest ih => rw [foldCaseAll, ih, List.map_cons]

theorem shape_foldCase (v : Value) : v.foldCase.shape = v.shape := by
  induction v with
  | list items ih =>
    simp only [foldCase, shape, foldCaseAll_eq_map, shapeAll_eq_map, List.map_map]
    exact congrArg Shape.list (List.map_congr_left ih)
  | _ => rfl

theorem exists_list_of_shape {shapes : List Shape} (h : v.shape = .list shapes) :
    ∃ items, v = list items ∧ items.map shape = shapes := by
  cases v with
  | list items => exact ⟨items, rfl, by rw [← shapeAll_eq_map]; exact Shape.list.inj h⟩
  | _ => cases h

/-- Values of one shape hold empty lists alike. -/
theorem HoldsEmptyList.of_shape (h : v.HoldsEmptyList) (same : w.shape = v.shape) : w.HoldsEmptyList := by
  induction h generalizing w with
  | empty =>
    obtain ⟨items, rfl, none⟩ := exists_list_of_shape same
    obtain rfl := List.map_eq_nil_iff.mp none
    exact .empty
  | @inside items v mem h ih =>
    obtain ⟨others, rfl, shapes⟩ := exists_list_of_shape same
    rw [shapeAll_eq_map] at shapes
    have among : v.shape ∈ others.map shape := shapes ▸ List.mem_map_of_mem mem
    obtain ⟨x, mem', same'⟩ := List.mem_map.mp among
    exact .inside mem' (ih same')

/-- A value as it is written, the list of an `IN` by its elements. -/
def written (listed : Bool) (v : Value) : List Value :=
  if listed then v.elements else [v]

theorem exists_written_of_shape {listed : Bool} (same : w.shape = v.shape)
    (h : ∃ x ∈ v.written listed, x.HoldsEmptyList) : ∃ x ∈ w.written listed, x.HoldsEmptyList := by
  obtain ⟨x, mem, holds⟩ := h
  cases listed with
  | false =>
    obtain rfl := List.mem_singleton.mp mem
    exact ⟨w, List.mem_singleton_self w, holds.of_shape same⟩
  | true =>
    cases v with
    | list items =>
      obtain ⟨others, rfl, shapes⟩ := exists_list_of_shape same
      rw [shapeAll_eq_map] at shapes
      have among : x.shape ∈ others.map shape := shapes ▸ List.mem_map_of_mem mem
      obtain ⟨y, mem', same'⟩ := List.mem_map.mp among
      exact ⟨y, mem', holds.of_shape same'⟩
    | _ =>
      obtain rfl := List.mem_singleton.mp mem
      cases holds

theorem exists_written_iff {listed : Bool} (same : w.shape = v.shape) :
    (∃ x ∈ w.written listed, x.HoldsEmptyList) ↔ ∃ x ∈ v.written listed, x.HoldsEmptyList :=
  ⟨exists_written_of_shape same.symm, exists_written_of_shape same⟩

end Value

theorem Context.shape_prepare (ctx : Context) (v : Value) : (ctx.prepare v).shape = v.shape := by
  unfold prepare
  split
  · exact v.shape_foldCase
  · rfl

/-! ### Trees -/

/-- The values that are written into the query from left to right, and whether what comes behind the node
would count as the list of an `IN` still. -/
def Node.written (env : Setting) (listed : Bool) : Node → List Value × Bool
  | constant v _ => (v.written listed, listed)
  | bindVariable reference _ =>
    (if env.options.inlineVariables then
      (env.bindings (variableName reference)).elim [] (Value.written listed) else [], listed)
  | comparison op l r => ((l.written env listed).1 ++ (r.written env (op == .isIn)).1, false)
  | conjunction _ l r =>
    let (front, listed) := l.written env listed
    let (back, listed) := r.written env listed
    (front ++ back, listed)
  | lone _ _ x | negation x => x.written env listed
  | identifier .. | literal _ | function .. => ([], listed)

theorem Script.exists_constant?_placed {v w : Value} {tag : TypeTag} (coerced : v.coerce tag = .ok w)
    (ctx : Context) :
    (∃ x ∈ (placed ctx.inList .constant (ctx.prepare w)).filterMap Piece.constant?, x.HoldsEmptyList) ↔
      ∃ x ∈ v.written ctx.inList, x.HoldsEmptyList := by
  have shown : (placed ctx.inList .constant (ctx.prepare w)).filterMap Piece.constant? =
      (ctx.prepare w).written ctx.inList := by
    rw [filterMap_placed fun _ => rfl]
    exact List.filterMap_some
  rw [shown]
  exact Value.exists_written_iff ((ctx.shape_prepare w).trans (Value.shape_coerce coerced))

/-- The constants among the pieces hold empty lists just if the values do that the tree is said to write. -/
theorem Renders.constant?_holds (h : Renders env level ctx node pieces ctx') :
    ((∃ v ∈ pieces.filterMap Piece.constant?, v.HoldsEmptyList) ↔
      ∃ v ∈ ((node.settled env).written env ctx.inList).1, v.HoldsEmptyList) ∧
      ((node.settled env).written env ctx.inList).2 = ctx'.inList := by
  have words (text : String) : (Piece.word text).constant? = none := rfl
  induction h with
  | column | fragment => exact ⟨by simp [Piece.constant?, Node.settled, Node.written], rfl⟩
  | constant coerced => exact ⟨exists_constant?_placed coerced _, rfl⟩
  | @bindVariable level ctx reference v w tag bound coerced =>
    refine ⟨?_, rfl⟩
    simp only [Setting.item, Node.settled, Node.written, bound, Option.elim_some]
    cases env.options.inlineVariables with
    | true => exact exists_constant?_placed coerced ctx
    | false => simp [filterMap_placed words, Piece.constant?]
  | tested room straight null test inner ih =>
    rw [Node.settled_comparison, straight, null]
    simpa [words, Node.written] using ih
  | joined room compares straight notNull left right ihl ihr =>
    rw [Node.settled_comparison, straight, notNull]
    have front := ihl.1
    have back := ihr.1
    rw [Operator.inList_enter] at front back
    refine ⟨?_, rfl⟩
    simp only [List.filterMap_append, List.filterMap_cons_none (words _), Operator.filterMap_wrap words,
      Node.written, List.mem_append, or_and_right, exists_or, front, back, Bool.false_eq_true, if_false]
  | turned turned swapped ih =>
    rw [Node.settled_comparison, turned]
    exact ih
  | lone room test inner ih => simpa [words, Node.settled, Node.written] using ih
  | conjunction room joins left right ihl ihr =>
    obtain ⟨front, between⟩ := ihl
    obtain ⟨back, behind⟩ := ihr
    rw [← between] at back behind
    refine ⟨?_, behind⟩
    simp [words, Node.settled, Node.written, or_and_right, exists_or, ← front, ← back]
  | negation room inner ih => simpa [words, Node.settled, Node.written] using ih

/-! ### Translation -/

namespace Engine

variable {e : Engine} {schema : Schema} {b : Bindings} {r : Rendered}

/-- A query of a tree without fragments has two parentheses with nothing between them just if a value that it
writes is an empty list, or holds one. Of the list of an `IN` only the elements are written. -/
theorem translate_emptyLists (reader : Dialect.Reader e.dialect lx) (made : node.IsMade)
    (noFragments : node.fragments = []) (h : e.translate schema b node = .ok r) :
    ∃ u ts, e.returned? schema b node = .ok u ∧ lx.tokens? r.sql = some ts ∧
      ([.plain '(', .plain ')'] <:+: ts ↔
        ∃ v ∈ (u.written ⟨b, e.options⟩ false).1, v.HoldsEmptyList) := by
  have given := returned?_of_translate h
  obtain ⟨pieces, ctx, follows, rfl⟩ := renders_of_translate h
  have unchanged := Node.fragments_typed schema node
  have composed : ComposedPieces e.dialect lx True pieces :=
    composed_of_renders reader.readable follows (fun _ => made.typed schema) (unchanged.trans noFragments)
  obtain ⟨ts, reads, -, pairs⟩ := composed 1
  rw [← String.toList_join] at reads
  exact ⟨_, ts, given, reads.tokens?, (pairs trivial).2.trans follows.constant?_holds.1⟩

/-- An empty list opposite a property, and one in the list of an `IN`, are written as they are. -/
theorem empty_lists_written :
    let e : Engine := ⟨.ansi, {}⟩
    let known : Schema := fun _ => some .long
    let opposite : Node := .comparison .eq (.identifier "a" none) (.constant (.list []) none)
    let among : Node :=
      .comparison .isIn (.identifier "age" none) (.constant (.list [.list [], .str "1"]) none)
    (∃ r, e.translate known Bindings.empty opposite = .ok r ∧ r.sql = "a = ()" ∧
      ∃ ts, Lexer.standard.tokens? r.sql = some ts ∧ [.plain '(', .plain ')'] <:+: ts) ∧
    ∃ r, e.translate known Bindings.empty among = .ok r ∧ r.sql = "age IN ((), 1)" ∧
      ∃ ts, Lexer.standard.tokens? r.sql = some ts ∧ [.plain '(', .plain ')'] <:+: ts := by
  intro e known opposite among
  obtain ⟨r, h, sql⟩ : ∃ r, e.translate known Bindings.empty opposite = .ok r ∧ r.sql = "a = ()" :=
    ⟨_, rfl, by decide +kernel⟩
  obtain ⟨r', h', sql'⟩ : ∃ r, e.translate known Bindings.empty among = .ok r ∧
      r.sql = "age IN ((), 1)" := ⟨_, rfl, by decide +kernel⟩
  refine ⟨⟨r, h, sql, ?_⟩, r', h', sql', ?_⟩
  · rw [sql]
    exact ⟨_, rfl, ['a', ' ', '=', ' '].map .plain, [], rfl⟩
  · rw [sql']
    exact ⟨_, rfl, "age IN (".toList.map .plain, ", 1)".toList.map .plain, rfl⟩

/-- Names and texts that hold such parentheses, and an empty list that is that of an `IN`. -/
theorem translate_emptyLists_replaced :
    let tree : Node := .conjunction .or
      (.comparison .isIn (.identifier "f()" none) (.bindVariable ":none" none))
      (.comparison .ne (.identifier "f()" none) (.constant (.str "()") none))
    let b : Bindings := fun _ => some (.list [])
    let e : Engine := ⟨.mysql, { inlineVariables := true }⟩
    tree.IsMade ∧ ∃ r, e.translate (fun _ => some .string) b tree = .ok r ∧
      r.sql = "(\x60f()\x60 IN (NULL)) OR (\x60f()\x60 <> '()')" ∧
      ∃ ts, Lexer.backslashed.tokens? r.sql = some ts ∧ ¬ [.plain '(', .plain ')'] <:+: ts := by
  intro tree b e
  have name {tag : Option TypeTag} : (Node.identifier "f()" tag).IsMade :=
    Node.isMade_identifier.mpr (by decide)
  have made : tree.IsMade := Node.isMade_conjunction.mpr
    ⟨Node.isMade_comparison.mpr ⟨name, Node.isMade_bindVariable.mpr (by decide)⟩,
      Node.isMade_comparison.mpr ⟨name, Node.isMade_constant _ _⟩⟩
  obtain ⟨r, h, sql⟩ : ∃ r, e.translate (fun _ => some .string) b tree = .ok r ∧
      r.sql = "(\x60f()\x60 IN (NULL)) OR (\x60f()\x60 <> '()')" := ⟨_, rfl, by decide +kernel⟩
  obtain ⟨u, ts, given, tokens, pairs⟩ := translate_emptyLists (e := e) .mysql made rfl h
  obtain rfl := Except.ok.inj given
  refine ⟨made, r, h, sql, ts, tokens, fun infixed => ?_⟩
  obtain ⟨v, mem, holds⟩ := pairs.mp infixed
  obtain rfl := List.mem_singleton.mp mem
  cases holds

end Engine

end ContentQuery
