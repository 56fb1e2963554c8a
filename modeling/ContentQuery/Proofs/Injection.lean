import ContentQuery.Proofs.Rerendering
import ContentQuery.Proofs.Spelling

/-!
# Injection safety

A query without fragments is contained in its dialect: no name and no value of any kind leaves the
token that it was written in.
-/

namespace ContentQuery

open Script

variable {lx : Lexer} {d : Dialect} {env : Setting} {level : Nat} {ctx ctx' : Context} {node : Node}
  {named : Prop}

def Piece.constant? : Piece → Option Value
  | constant v => some v
  | _ => none

/-- Pieces whose text is composed, wherever their parameters are numbered from. It has parentheses around nothing
just if a constant among them holds an empty list. -/
def ComposedPieces (d : Dialect) (lx : Lexer) (named : Prop) (pieces : List Piece) : Prop :=
  ∀ seq, Composed lx named ((Piece.spellFrom d seq pieces).flatMap String.toList)
    (∃ v ∈ pieces.filterMap Piece.constant?, v.HoldsEmptyList)

namespace ComposedPieces

variable {ps qs : List Piece} {p : Piece} {w : String}

theorem single (h : ∀ seq, Composed lx named (p.spell d seq).toList (∃ v ∈ p.constant?, v.HoldsEmptyList)) :
    ComposedPieces d lx named [p] := by
  intro seq
  have alone := h seq
  cases shown : p.constant? with
  | none => simpa [Piece.spellFrom, shown] using alone
  | some v => simpa [Piece.spellFrom, shown] using alone

theorem append_word (hp : ComposedPieces d lx named ps) (hw : Inert w.toList) (ne : w.toList ≠ []) :
    ComposedPieces d lx named (ps ++ [.word w]) := by
  intro seq
  simpa [Piece.spellFrom_append, Piece.spellFrom, Piece.spell, Piece.constant?] using
    (hp seq).append_inert hw ne

theorem between (hp : ComposedPieces d lx named ps) (hw : Inert w.toList) (ne : w.toList ≠ [])
    (hq : ComposedPieces d lx named qs) : ComposedPieces d lx named (ps ++ .word w :: qs) := by
  intro seq
  simpa [Piece.spellFrom_append, Piece.spellFrom, Piece.spell, Piece.param?, Piece.constant?,
    or_and_right, exists_or] using (hp seq).between hw ne (hq _)

theorem parenthesized (hp : ComposedPieces d lx named ps) :
    ComposedPieces d lx named (.word "(" :: ps ++ [.word ")"]) := by
  intro seq
  simpa [Piece.spellFrom_append, Piece.spellFrom, Piece.spell, Piece.param?, Piece.constant?] using
    (hp seq).enclosed

theorem enclosed (hp : ComposedPieces d lx named ps) (hw : Inert w.toList) :
    ComposedPieces d lx named (.word (w ++ "(") :: ps ++ [.word ")"]) := by
  intro seq
  simpa [Piece.spellFrom_append, Piece.spellFrom, Piece.spell, Piece.param?, Piece.constant?] using
    (hp seq).enclosed.inert_append hw

theorem both (hp : ComposedPieces d lx named ps) (hw : Inert w.toList) (hq : ComposedPieces d lx named qs) :
    ComposedPieces d lx named (.word "(" :: ps ++ .word (") " ++ w ++ " (") :: qs ++ [.word ")"]) := by
  intro seq
  simpa [Piece.spellFrom_append, Piece.spellFrom, Piece.spell, Piece.param?, Piece.constant?,
    or_and_right, exists_or] using (hp seq).enclosed.between hw.spaced (by simp) (hq _).enclosed

theorem separated {pieces : List Piece} (some : pieces ≠ [])
    (h : ∀ p ∈ pieces, ComposedPieces d lx named [p]) : ComposedPieces d lx named (separated pieces) := by
  induction pieces with
  | nil => exact absurd rfl some
  | cons p rest ih =>
    obtain ⟨head, tail⟩ := List.forall_mem_cons.mp h
    cases rest with
    | nil => exact head
    | cons q rest => exact head.between (by decide) (by decide) (ih (List.cons_ne_nil _ _) tail)

theorem placed {item : Value → Piece} (h : ∀ v, ComposedPieces d lx named [item v]) (inList : Bool) (v : Value) :
    ComposedPieces d lx named (placed inList item v) := by
  unfold Script.placed
  split
  · split
    · have replaced : Composed lx named ('(' :: "NULL".toList ++ [')']) False :=
        .enclosed (.of_inert (by decide) fun _ => by decide)
      exact .single fun _ => by simpa [Piece.spell, Piece.constant?] using replaced
    · rename_i items some
      refine .parenthesized (.separated ?_ fun p mem => ?_)
      · simpa using some
      · obtain ⟨w, -, rfl⟩ := List.mem_map.mp mem
        exact h w
    · exact (h v).parenthesized
  · exact h v

theorem wrap (h : ComposedPieces d lx named ps) (op : Operator) : ComposedPieces d lx named (op.wrap ps) := by
  unfold Operator.wrap
  cases op with
  | like => exact h.enclosed (w := caseFolding) (by decide)
  | _ => exact h

end ComposedPieces

theorem inert_of_nullTest? {op : Operator} {keyword : String} (h : nullTest? op = some keyword) :
    Inert keyword.toList := by
  cases op <;> cases h <;> decide

theorem ne_nil_of_nullTest? {op : Operator} {keyword : String} (h : nullTest? op = some keyword) :
    keyword.toList ≠ [] := by
  cases op <;> cases h <;> decide

/-- Whatever is rendered without fragments is composed. -/
theorem composed_of_renders (readable : d.ReadableBy lx) {pieces : List Piece}
    (h : Renders env level ctx node pieces ctx') (made : named → node.IsMade) (none : node.fragments = []) :
    ComposedPieces d lx named pieces := by
  -- Every rule writes its own words around what is composed already, and words are inert.
  have literal (v : Value) : ComposedPieces d lx named [.constant v] :=
    .single fun _ => (readable.literal v).congr (by simp [Piece.constant?])
  induction h with
  | column level ctx name tag =>
    have filled (all : named) : Text.isBlank name = false := Node.isMade_identifier.mp (made all)
    exact .single fun _ => (readable.identifier name filled).congr (by simp [Piece.constant?])
  | fragment level ctx text => cases none
  | constant coerced => exact .placed literal _ _
  | bindVariable bound coerced =>
    refine .placed (fun v => ?_) _ _
    unfold Setting.item
    split
    · exact literal v
    · exact .single fun seq => (readable.placeholder seq _).congr (by simp [Piece.constant?])
  | tested room straight null test inner ih =>
    rw [Node.fragments_comparison, List.append_eq_nil_iff] at none
    have operand := ih (fun all => (Node.isMade_comparison.mp (made all)).1) none.1
    exact operand.append_word (inert_of_nullTest? test) (ne_nil_of_nullTest? test)
  | @joined level ctx ctx₁ ctx₂ op l r ps qs room compares straight notNull left right ihl ihr =>
    rw [Node.fragments_comparison, List.append_eq_nil_iff] at none
    have front := ihl (fun all => (Node.isMade_comparison.mp (made all)).1) none.1
    have back := ihr (fun all => (Node.isMade_comparison.mp (made all)).2) none.2
    refine (front.wrap op).between ?_ ?_ (back.wrap op)
    · cases op <;> decide
    · cases op <;> decide
  | turned turned swapped ih =>
    rw [Node.fragments_comparison, List.append_eq_nil_iff] at none
    refine ih (fun all => ?_) (by simp [none.1, none.2])
    exact Node.isMade_comparison.mpr (Node.isMade_comparison.mp (made all)).symm
  | lone room test inner ih =>
    have operand := ih (fun all => Node.isMade_lone.mp (made all)) none
    exact operand.append_word (inert_of_nullTest? test) (ne_nil_of_nullTest? test)
  | @conjunction level ctx ctx₁ ctx₂ op l r ps qs room joins left right ihl ihr =>
    rw [Node.fragments_conjunction, List.append_eq_nil_iff] at none
    have front := ihl (fun all => (Node.isMade_conjunction.mp (made all)).1) none.1
    have back := ihr (fun all => (Node.isMade_conjunction.mp (made all)).2) none.2
    have word : Inert op.operator.token.toList := by cases op <;> decide
    exact front.both word back
  | negation room inner ih =>
    have operand := ih (fun all => Node.isMade_negation.mp (made all)) none
    exact operand.enclosed (w := "NOT ") (by decide)

theorem settled_of_renders (readable : d.ReadableBy lx) {pieces : List Piece}
    (h : Renders env level ctx node pieces ctx') (none : node.fragments = []) (seq : Nat) :
    Settled lx ((Piece.spellFrom d seq pieces).flatMap String.toList) :=
  (composed_of_renders readable h False.elim none seq).settled

/-- The query of a tree without fragments ends outside quotes and is contained. -/
theorem Engine.translate_contained {e : Engine} {schema : Schema} {bindings : Bindings} {r : Rendered}
    (reader : Dialect.Reader e.dialect lx) (noFragments : node.fragments = [])
    (h : e.translate schema bindings node = .ok r) :
    ∃ ts, lx.tokens? r.sql = some ts ∧ Contained (Token.outside ts) := by
  obtain ⟨pieces, ctx, follows, rfl⟩ := renders_of_translate h
  have unchanged := Node.fragments_typed schema node
  obtain ⟨ts, reads, calm⟩ :=
    settled_of_renders reader.readable follows (unchanged.trans noFragments) 1
  rw [← String.toList_join] at reads
  exact ⟨ts, reads.tokens?, calm.contained⟩

/-- A name and a value that try to close their tokens. -/
theorem Engine.translate_contained_hostile :
    ∃ r, (⟨.mysql, { inlineVariables := true }⟩ : Engine).translate (fun _ => some .string)
        (fun _ => some (.str "it's \\'; -- ")) (.comparison .like (.identifier "a)" none)
          (.bindVariable "x" none)) = .ok r ∧
      ∃ ts, Lexer.backslashed.tokens? r.sql = some ts ∧ Contained (Token.outside ts) := by
  have accepted : ∃ r, (⟨.mysql, { inlineVariables := true }⟩ : Engine).translate
      (fun _ => some .string) (fun _ => some (.str "it's \\'; -- "))
      (.comparison .like (.identifier "a)" none) (.bindVariable "x" none)) = .ok r := ⟨_, rfl⟩
  obtain ⟨r, h⟩ := accepted
  have reader : Dialect.Reader (⟨.mysql, { inlineVariables := true }⟩ : Engine).dialect .backslashed :=
    .mysql
  exact ⟨r, h, translate_contained reader rfl h⟩

end ContentQuery
