import ContentQuery.Proofs.Injection
import ContentQuery.Proofs.Outline

/-!
# Texts of clauses

A clause begins with the text of an operand and goes on with nothing, with a test for NULL, or with an
operator that joins no conditions. Parentheses at its beginning are those of a list. So no clause begins
like something joined or negated.
-/

namespace ContentQuery

open Script

/-- A text that an operand can begin a clause with, unless it is a list. -/
inductive IsOpening : List Char → Prop
  | word {s : List Char} (solid : ∀ c ∈ s, c ≠ ' ' ∧ c ≠ '(') : IsOpening s
  | marked {c : Char} {s : List Char} (noNegation : c ≠ 'N') (noList : c ≠ '(') : IsOpening (c :: s)

/-- What can stand behind the first operand of a clause. -/
inductive IsTail : List Char → Prop
  | none : IsTail []
  | spaced {c : Char} {s : List Char} (noJoint : c ∉ ['(', 'A', 'O', 'N']) : IsTail (' ' :: c :: s)

/-- The text of an operand: one that is no list, or a list of settled texts. -/
def IsHead (lx : Lexer) (s : List Char) : Prop :=
  IsOpening s ∨ ∃ items, Settled lx items ∧ s = '(' :: (items ++ [')'])

variable {lx : Lexer} {a b s : List Char}

theorem IsTail.eq_blank {c : Char} (h : IsTail b) (head : b.head? = some c) : c = ' ' := by
  cases h with
  | none => cases head
  | spaced => exact (Option.some.inj head).symm

namespace IsOpening

theorem of_solid (h : Solid s) : IsOpening s := by
  refine .word fun c mem => ⟨?_, ?_⟩
  · rintro rfl
    exact h.not_mem rfl mem
  · rintro rfl
    exact h.not_mem rfl mem

theorem of_isNumeral (h : IsNumeral s) : IsOpening s := by
  obtain ⟨negative, body, solid, -, rfl⟩ := h
  cases negative with
  | false => exact of_solid solid
  | true => exact .marked (by decide) (by decide)

theorem of_head {c : Char} (h : s.head? = some c) (noNegation : c ≠ 'N') (noList : c ≠ '(') :
    IsOpening s := by
  cases s with
  | nil => cases h
  | cons first s =>
    cases h
    exact .marked noNegation noList

theorem quoted {q : Char} {special : Char → Bool} {text : String} (noNegation : q ≠ 'N')
    (noList : q ≠ '(') : IsOpening (Text.quoted q special text).toList := by
  rw [Text.quoted, String.toList_ofList]
  exact .marked noNegation noList

theorem not_negated (h : IsOpening a) (tail : IsTail b) : ¬ Outline.negation <+: a ++ b := by
  rintro ⟨rest, same⟩
  cases h with
  | marked noNegation noList => exact noNegation (List.cons.inj same).1.symm
  | word solid =>
    -- A word ends at the blank of a negation, or before it.
    have blank : "NOT".toList ++ ' ' :: '(' :: rest = a ++ b := same
    have parted : b ≠ ' ' :: '(' :: rest := by
      rintro rfl
      cases tail with
      | spaced noJoint => exact noJoint (by decide)
    rcases List.append_eq_append_iff.mp blank with ⟨more, rfl, goesOn⟩ | ⟨more, short, rfl⟩
    · cases more with
      | nil => exact parted goesOn.symm
      | cons c more =>
        obtain ⟨rfl, -⟩ := List.cons.inj goesOn
        exact (solid ' ' (by simp)).1 rfl
    · cases more with
      | nil => exact parted rfl
      | cons c more =>
        have letter : c ∈ "NOT".toList := by simp [short]
        rw [tail.eq_blank rfl] at letter
        exact absurd letter (by decide)

theorem not_list (h : IsOpening a) (tail : IsTail b) (rest : List Char) : a ++ b ≠ '(' :: rest := by
  intro same
  cases h with
  | marked noNegation noList => exact noList (List.cons.inj same).1
  | word solid =>
    cases a with
    | nil => cases tail <;> cases same
    | cons c a => exact (solid c (by simp)).2 (List.cons.inj same).1

end IsOpening

theorem IsTail.ne_joint (h : IsTail b) (op : Connective) (rest : List Char) :
    b ≠ op.joint ++ rest := by
  rintro rfl
  cases op <;> cases h <;> rename_i noJoint <;> exact noJoint (by decide)

/-- What begins and goes on like a clause is neither joined nor negated. -/
theorem IsHead.isClauseText (head : IsHead lx a) (tail : IsTail b) (settled : Settled lx (a ++ b)) :
    Outline.IsClauseText lx (a ++ b) := by
  rcases head with opening | ⟨items, whole, rfl⟩
  · exact {
      settled
      notNegated := opening.not_negated tail
      notJoined := fun op part _ ⟨rest, same⟩ => opening.not_list tail _ same.symm }
  · refine ⟨settled, ?_, ?_⟩
    · rintro ⟨rest, same⟩
      cases same
    · rintro op part parted ⟨rest, same⟩
      have chars : part ++ ')' :: (op.joint ++ rest) = items ++ ')' :: b := by simpa using same
      obtain ⟨-, goesOn⟩ := parted.eq_of_closed whole chars
      exact tail.ne_joint op rest goesOn.symm

/-! ### Dialects -/

namespace Dialect

variable {d : Dialect}

/-- What a dialect writes for a part of a clause, unless it is a list, can begin the clause. -/
structure OpensClauses (d : Dialect) : Prop where
  placeholder : ∀ seq name, IsOpening (d.placeholder seq name).toList
  identifier : ∀ name, IsOpening (d.identifier name).toList
  string : ∀ s, IsOpening (d.quoteString s).toList
  bool : ∀ b, IsOpening (d.boolLiteral b).toList
  date : ∀ day, IsOpening (d.dateLiteral day).toList
  dateTime : ∀ dt, IsOpening (d.dateTimeLiteral dt).toList
  bytes : ∀ b, IsOpening (d.bytesLiteral b).toList

theorem isOpening_name {name : String} {quote : String → String} (h : IsOpening (quote name).toList) :
    IsOpening (if isBareName name then name else quote name).toList := by
  split
  · rename_i bare
    exact .of_solid (solid_of_isBareName bare)
  · exact h

theorem Reader.opensClauses (h : Reader d lx) : d.OpensClauses := by
  have mark : IsOpening "?".toList := .of_solid (by decide)
  have stamped {word text : String} {c : Char} (first : word.toList.head? = some c) (noNegation : c ≠ 'N')
      (noList : c ≠ '(') : IsOpening (word ++ text ++ "'").toList := by
    refine .of_head (c := c) ?_ noNegation noList
    simp [first]
  have bytes (b : List UInt8) : IsOpening ("X'" ++ hexText b ++ "'").toList :=
    stamped rfl (by decide) (by decide)
  have plain (text : String) : IsOpening ("'" ++ text ++ "'").toList :=
    stamped rfl (by decide) (by decide)
  cases h with
  | ansi =>
    exact {
      placeholder := fun _ _ => mark
      identifier := fun _ => isOpening_name (.quoted (by decide) (by decide))
      string := fun _ => .quoted (by decide) (by decide)
      bool := fun b => .of_solid (by cases b <;> decide)
      date := fun _ => stamped rfl (by decide) (by decide)
      dateTime := fun _ => stamped rfl (by decide) (by decide)
      bytes }
  | sqlite =>
    exact {
      placeholder := fun _ _ => mark
      identifier := fun _ => isOpening_name (.quoted (by decide) (by decide))
      string := fun _ => .quoted (by decide) (by decide)
      bool := fun b => .of_solid (by cases b <;> decide)
      date := fun _ => plain _
      dateTime := fun _ => plain _
      bytes }
  | mysql =>
    exact {
      placeholder := fun _ _ => mark
      identifier := fun _ => isOpening_name (.quoted (by decide) (by decide))
      string := fun _ => .quoted (by decide) (by decide)
      bool := fun b => .of_solid (by cases b <;> decide)
      date := fun _ => plain _
      dateTime := fun _ => plain _
      bytes }

theorem Reader.isHead_literal (h : Reader d lx) (v : Value) : IsHead lx (d.literal v).toList := by
  have opens := h.opensClauses
  cases v with
  | null =>
    show IsHead lx "NULL".toList
    exact .inl (.of_solid (by decide))
  | bool b => exact .inl (opens.bool b)
  | char c => exact .inl (opens.string c.toString)
  | str s => exact .inl (opens.string s)
  | int n => exact .inl (.of_isNumeral n.isNumeral_text)
  | single x => exact .inl (.of_isNumeral x.isNumeral_text)
  | double x => exact .inl (.of_isNumeral x.isNumeral_text)
  | bytes b => exact .inl (opens.bytes b)
  | date day => exact .inl (opens.date day)
  | dateTime dt => exact .inl (opens.dateTime dt)
  | dateTimeUtc dt => exact .inl (opens.dateTime dt)
  | decimal x => exact .inl (.of_isNumeral x.isNumeral_text)
  | list items =>
    have parts : Composed lx False (", ".intercalate (items.map d.literal)).toList
        (∃ v ∈ items, v.HoldsEmptyList) := .listed False.elim fun v _ => h.readable.literal v
    exact .inr ⟨_, parts.settled, by simp [literal, literals_eq_map, Value.parenthesized]⟩
  | map entries => exact .inl (opens.string _)

end Dialect

/-! ### Renderings -/

namespace Node

/-- Properties, constants and variables. -/
def isLeaf : Node → Bool
  | identifier .. | constant .. | bindVariable .. => true
  | _ => false

/-- No comparison has an operand that is itself a condition. -/
def ComparesLeaves : Node → Prop
  | comparison _ l r => l.isLeaf = true ∧ r.isLeaf = true
  | lone _ _ x => x.isLeaf = true
  | conjunction _ l r => l.ComparesLeaves ∧ r.ComparesLeaves
  | negation x => x.ComparesLeaves
  | identifier .. | constant .. | bindVariable .. | literal _ | function .. => True

/-- Whatever is no conjunction. -/
def isClause : Node → Bool
  | conjunction .. | negation _ => false
  | _ => true

end Node

variable {d : Dialect} {env : Setting} {level : Nat} {ctx ctx' : Context} {node x : Node}
  {pieces : List Piece} {op : Operator}

/-- Outside a list an operand is one piece, which can begin a clause. -/
theorem isHead_of_renders (reader : Dialect.Reader d lx) (leaf : x.isLeaf = true) (noList : ctx.inList = false)
    (h : Renders env level ctx x pieces ctx') :
    ∃ p, pieces = [p] ∧ ∀ seq, IsHead lx (p.spell d seq).toList := by
  cases h with
  | column => exact ⟨_, rfl, fun _ => .inl (reader.opensClauses.identifier _)⟩
  | constant coerced =>
    rw [noList]
    exact ⟨_, rfl, fun _ => reader.isHead_literal _⟩
  | bindVariable bound coerced =>
    rw [noList]
    refine ⟨_, rfl, fun seq => ?_⟩
    unfold Setting.item
    split
    · exact reader.isHead_literal _
    · exact .inl (reader.opensClauses.placeholder seq _)
  | _ => cases leaf

theorem IsTail.of_nullTest? {keyword : String} (h : nullTest? op = some keyword) :
    IsTail keyword.toList := by
  cases op <;> cases h <;> exact .spaced (by decide)

theorem IsTail.of_operator (compares : isNoComparison op = false) (rest : List Char) :
    IsTail ((" " ++ op.token ++ " ").toList ++ rest) := by
  cases op <;> first | cases compares; done | exact .spaced (by decide)

theorem isHead_wrap {p : Piece} (head : ∀ seq, IsHead lx (p.spell d seq).toList) (op : Operator)
    (seq : Nat) : IsHead lx ((Piece.spellFrom d seq (op.wrap [p])).flatMap String.toList) := by
  cases op with
  | like =>
    have called : IsOpening ("UPPER(".toList ++ ((p.spell d seq).toList ++ ")".toList)) :=
      .marked (by decide) (by decide)
    refine .inl ?_
    simpa [Operator.wrap, Operator.operandFunction?, caseFolding, Piece.spellFrom, Piece.spell,
      Piece.param?] using called
  | _ => simpa [Operator.wrap, Operator.operandFunction?, Piece.spellFrom] using head seq

/-- The text of pieces falls into a part that begins a clause and what goes on with it. -/
def BeginsClause (d : Dialect) (lx : Lexer) (pieces : List Piece) : Prop :=
  ∀ seq, ∃ a b, (Piece.spellFrom d seq pieces).flatMap String.toList = a ++ b ∧ IsHead lx a ∧ IsTail b

theorem BeginsClause.single {p : Piece} (head : ∀ seq, IsHead lx (p.spell d seq).toList) :
    BeginsClause d lx [p] := by
  intro seq
  exact ⟨_, [], by simp [Piece.spellFrom], head seq, .none⟩

theorem BeginsClause.tested {p : Piece} {keyword : String} (head : ∀ seq, IsHead lx (p.spell d seq).toList)
    (test : nullTest? op = some keyword) : BeginsClause d lx ([p] ++ [.word keyword]) := by
  intro seq
  exact ⟨_, keyword.toList, by simp [Piece.spellFrom, Piece.spell], head seq, .of_nullTest? test⟩

theorem BeginsClause.compared {p : Piece} (head : ∀ seq, IsHead lx (p.spell d seq).toList)
    (compares : isNoComparison op = false) (qs : List Piece) :
    BeginsClause d lx (op.wrap [p] ++ .word (" " ++ op.token ++ " ") :: qs) := by
  intro seq
  rw [Piece.spellFrom_append, List.flatMap_append, Piece.spellFrom, List.flatMap_cons]
  exact ⟨_, _, rfl, isHead_wrap head op seq, .of_operator compares _⟩

theorem beginsClause_of_renders (reader : Dialect.Reader d lx) (clause : node.isClause = true)
    (leaves : node.ComparesLeaves) (noFragments : node.fragments = []) (noList : ctx.inList = false)
    (h : Renders env level ctx node pieces ctx') : BeginsClause d lx pieces := by
  cases leaf : node.isLeaf with
  | true =>
    obtain ⟨p, rfl, head⟩ := isHead_of_renders reader leaf noList h
    exact .single head
  | false =>
    induction h with
    | column | constant | bindVariable => cases leaf
    | fragment => cases noFragments
    | conjunction | negation => cases clause
    | tested room straight null test inner =>
      obtain ⟨p, rfl, head⟩ := isHead_of_renders reader leaves.1 noList inner
      exact .tested head test
    | @joined level ctx ctx₁ ctx₂ op l r ps qs room compares straight notNull left right =>
      have first : (op.enter ctx).inList = false := Operator.inList_enter.trans noList
      obtain ⟨p, rfl, head⟩ := isHead_of_renders reader leaves.1 first left
      exact .compared head compares _
    | turned turned swapped ih =>
      rw [Node.fragments_comparison, List.append_eq_nil_iff] at noFragments
      exact ih rfl leaves.symm (by simp [noFragments.1, noFragments.2]) noList rfl
    | lone room test inner =>
      obtain ⟨p, rfl, head⟩ := isHead_of_renders reader leaves noList inner
      exact .tested head test

/-- No clause is rendered like something joined or negated. -/
theorem isClauseText_of_renders (reader : Dialect.Reader d lx) (clause : node.isClause = true)
    (leaves : node.ComparesLeaves) (noFragments : node.fragments = []) (noList : ctx.inList = false)
    (h : Renders env level ctx node pieces ctx') (seq : Nat) :
    Outline.IsClauseText lx ((Piece.spellFrom d seq pieces).flatMap String.toList) := by
  have settled := settled_of_renders reader.readable h noFragments seq
  obtain ⟨a, b, same, head, tail⟩ := beginsClause_of_renders reader clause leaves noFragments noList h seq
  rw [same] at settled ⊢
  exact head.isClauseText tail settled

end ContentQuery
