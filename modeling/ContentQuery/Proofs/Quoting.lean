import ContentQuery.Proofs.Spelling
import ContentQuery.Text.Blank
import Mathlib

/-!
# Quoting reads back

What a dialect writes for a string or a name is one lexeme to the lexer of the dialect, whatever text follows
it, and the lexeme holds the string or the name again.
-/

namespace ContentQuery

/-- What stands at the front of a text: a quoted token, a word, or any other character. -/
inductive Lexeme where
  | quoted (delimiter : Char) (content : List Char)
  | word (letters : List Char)
  | mark (c : Char)
  deriving Repr, DecidableEq

def Lexeme.tokens : Lexeme → List Token
  | quoted delimiter content => [.quoted delimiter content]
  | word letters => letters.map .plain
  | mark c => [.plain c]

def startsWord (c : Char) : Bool :=
  Text.isAlphabetic c || c == '_'

def continuesWord (c : Char) : Bool :=
  Text.isAlphabetic c || Text.isNumeric c || c == '_'

variable {lx : Lexer} {d : Dialect} {q c : Char} {s rest : List Char} {x : Lexeme}

/-! ### Reading one lexeme -/

namespace Lexer

/-- The lexeme at the front of a text and the text behind it. An empty text has none, and neither has one that
ends inside its first quotes. -/
def read? (lx : Lexer) : List Char → Option (Lexeme × List Char)
  | [] => none
  | c :: rest =>
    if lx.opens c then (lx.close? c rest).map (Prod.map (.quoted c) id)
    else if startsWord c then
      some (.word (c :: rest.takeWhile continuesWord), rest.dropWhile continuesWord)
    else some (.mark c, rest)

theorem opens_of_startsWord (h : startsWord c = true) : lx.opens c = false :=
  lx.opens_of_inert (isInert_of h)

theorem opens_of_continuesWord (h : continuesWord c = true) : lx.opens c = false :=
  lx.opens_of_inert (isInert_of h)

/-- The tokens of a text are those of its first lexeme and those of the text behind it. -/
theorem scan_of_read? (h : lx.read? s = some (x, rest)) :
    lx.scan .outside s = (lx.scan .outside rest).map (x.tokens ++ ·) := by
  cases s with
  | nil => cases h
  | cons c s =>
    rw [read?] at h
    by_cases opening : lx.opens c = true
    · rw [if_pos opening] at h
      obtain ⟨⟨content, behind⟩, closed, same⟩ := Option.map_eq_some_iff.mp h
      obtain ⟨rfl, rfl⟩ := Prod.mk.inj same
      rw [scan, if_pos opening, scan_inside, closed]
      rfl
    · rw [if_neg opening] at h
      by_cases letter : startsWord c = true
      · rw [if_pos letter] at h
        obtain ⟨rfl, rfl⟩ := Prod.mk.inj (Option.some.inj h)
        have noDelimiter : ∀ l ∈ c :: s.takeWhile continuesWord, lx.opens l = false := by
          refine List.forall_mem_cons.mpr ⟨opens_of_startsWord letter, fun l mem => ?_⟩
          exact opens_of_continuesWord (List.all_eq_true.mp List.all_takeWhile l mem)
        have text : c :: s = (c :: s.takeWhile continuesWord) ++ s.dropWhile continuesWord := by
          rw [List.cons_append, List.takeWhile_append_dropWhile]
        rw [text]
        exact scan_plain noDelimiter
      · rw [if_neg letter] at h
        obtain ⟨rfl, rfl⟩ := Prod.mk.inj (Option.some.inj h)
        rw [scan, if_neg opening]
        rfl

theorem scan_of_read?_eq_none (h : lx.read? (c :: s) = none) : lx.scan .outside (c :: s) = none := by
  rw [read?] at h
  by_cases opening : lx.opens c = true
  · rw [if_pos opening, Option.map_eq_none_iff] at h
    rw [scan, if_pos opening, scan_inside, h]
    rfl
  · rw [if_neg opening] at h
    split at h <;> cases h

theorem read?_quoted {special : Char → Bool} {s : String} (opening : lx.opens q = true)
    (same : ∀ c, special c = lx.isSpecial q c) (behind : rest.head? ≠ some q) :
    lx.read? ((Text.quoted q special s).toList ++ rest) = some (.quoted q s.toList, rest) := by
  have text : (Text.quoted q special s).toList ++ rest =
      q :: (Text.double (lx.isSpecial q) s.toList ++ q :: rest) := by
    rw [Text.quoted, String.toList_ofList, funext same]
    simp
  rw [text, read?, if_pos opening, close?_double behind]
  rfl

theorem read?_word (first : startsWord c = true) (more : ∀ l ∈ s, continuesWord l = true)
    (behind : ∀ l ∈ rest.head?, continuesWord l = false) :
    lx.read? (c :: s ++ rest) = some (.word (c :: s), rest) := by
  have ends : rest.takeWhile continuesWord = [] ∧ rest.dropWhile continuesWord = rest := by
    cases rest with
    | nil => exact ⟨rfl, rfl⟩
    | cons l rest =>
      have stop := behind l rfl
      simp [stop]
  rw [List.cons_append, read?, opens_of_startsWord first, first, List.takeWhile_append_of_pos more,
    List.dropWhile_append_of_pos more, ends.1, ends.2, List.append_nil]
  rfl

end Lexer

/-! ### Bare names -/

theorem continuesWord_of_isBareFrom (h : isBareFrom false s = true) : ∀ c ∈ s, continuesWord c = true := by
  induction s with
  | nil => simp
  | cons c s ih =>
    simp only [isBareFrom, Name.isPlain, Bool.and_eq_true, Bool.or_eq_true, bne_iff_ne, beq_iff_eq] at h
    obtain ⟨⟨⟨⟨noColon, noHyphen⟩, noDot⟩, plain⟩, bare⟩ := h
    refine List.forall_mem_cons.mpr ⟨?_, ih bare⟩
    simp only [continuesWord, Bool.or_eq_true, beq_iff_eq]
    grind

theorem exists_word_of_isBareName {name : String} (h : isBareName name = true)
    (notBlank : Text.isBlank name = false) :
    ∃ c s, name.toList = c :: s ∧ startsWord c = true ∧ ∀ l ∈ s, continuesWord l = true := by
  rw [isBareName, Bool.and_eq_true] at h
  cases text : name.toList with
  | nil =>
    rw [Text.isBlank, text] at notBlank
    cases notBlank
  | cons c s =>
    rw [text] at h
    simp only [isBareFrom, Name.isPlain, Bool.and_eq_true, Bool.or_eq_true, bne_iff_ne, beq_iff_eq] at h
    obtain ⟨-, ⟨⟨⟨noColon, noHyphen⟩, noDot⟩, plain⟩, bare⟩ := h
    refine ⟨c, s, rfl, ?_, continuesWord_of_isBareFrom bare⟩
    simp only [startsWord, Bool.or_eq_true, beq_iff_eq]
    grind

/-- The name is the word, each of its letters in capitals or not. -/
def IsCasingOf (word name : String) : Prop :=
  List.Forall₂ (fun w c => c = w.toUpper ∨ c = w.toLower) word.toList name.toList

theorem map_toLower_of_casing {word name : List Char}
    (casing : List.Forall₂ (fun w c => c = w.toUpper ∨ c = w.toLower) word name) :
    word.map Char.toLower = name.map Char.toLower := by
  induction casing with
  | nil => rfl
  | @cons w c word name same _ ih =>
    have head : w.toLower = c.toLower := by
      rcases same with rfl | rfl
      · exact w.toLower_toUpper_eq_toLower.symm
      · exact w.toLower_toLower_eq_toLower.symm
    rw [List.map_cons, List.map_cons, head, ih]

theorem not_casing_of_not_reserved {name : String} (h : isReserved name = false) :
    ∀ word ∈ reservedWords, ¬ IsCasingOf word name := by
  intro word mem casing
  have same := map_toLower_of_casing casing
  rw [isReserved, List.any_eq_false] at h
  exact h word mem (beq_iff_eq.mpr same)

/-! ### Dialects -/

namespace Dialect

variable {name other : String}

/-- What a lexer makes of the strings and the names of a dialect. -/
structure QuotedFor (d : Dialect) (lx : Lexer) : Prop where
  string : ∀ s : String, ∀ rest : List Char, rest.head? ≠ some '\'' →
    lx.read? ((d.quoteString s).toList ++ rest) = some (.quoted '\'' s.toList, rest)
  name : ∀ s : String, ∀ rest : List Char, rest.head? ≠ some lx.nameDelimiter →
    lx.read? ((d.quoteIdentifier s).toList ++ rest) = some (.quoted lx.nameDelimiter s.toList, rest)
  identifier : ∀ name, d.identifier name = if isBareName name then name else d.quoteIdentifier name

theorem Reader.quotedFor (h : Reader d lx) : d.QuotedFor lx := by
  have apostrophe (lx : Lexer) : lx.opens '\'' = true := by simp [Lexer.opens]
  have delimiter (lx : Lexer) : lx.opens lx.nameDelimiter = true := by simp [Lexer.opens]
  cases h with
  | ansi | sqlite =>
    exact {
      string := fun s rest => Lexer.read?_quoted (apostrophe _) (Lexer.isSpecial_eq rfl)
      name := fun s rest => Lexer.read?_quoted (delimiter .standard) (Lexer.isSpecial_eq rfl)
      identifier := fun _ => rfl }
  | mysql =>
    exact {
      string := fun s rest => Lexer.read?_quoted (apostrophe _) fun c => Bool.or_comm ..
      name := fun s rest => Lexer.read?_quoted (delimiter .backslashed) (Lexer.isSpecial_eq rfl)
      identifier := fun _ => rfl }

namespace QuotedFor

/-- A column stands there as the word that it is called by, or in quotes. -/
theorem read?_identifier (h : d.QuotedFor lx) (notBlank : Text.isBlank name = false) :
    (d.identifier name = name ∧ isReserved name = false ∧
      ∀ rest : List Char, (∀ c ∈ rest.head?, continuesWord c = false) →
        lx.read? (name.toList ++ rest) = some (.word name.toList, rest)) ∨
    ∀ rest : List Char, rest.head? ≠ some lx.nameDelimiter →
      lx.read? ((d.identifier name).toList ++ rest) = some (.quoted lx.nameDelimiter name.toList, rest) := by
  rw [h.identifier]
  cases bare : isBareName name with
  | false => exact .inr (h.name name)
  | true =>
    refine .inl ⟨rfl, ?_, fun rest behind => ?_⟩
    · rw [isBareName, Bool.and_eq_true, Bool.not_eq_true'] at bare
      exact bare.1
    · obtain ⟨c, s, text, first, more⟩ := exists_word_of_isBareName bare notBlank
      rw [text]
      exact Lexer.read?_word first more behind

/-- At the end of a query, a column is read as its name. -/
theorem exists_read?_identifier (h : d.QuotedFor lx) (notBlank : Text.isBlank name = false) :
    ∃ x, lx.read? (d.identifier name).toList = some (x, []) ∧
      (x = .word name.toList ∨ x = .quoted lx.nameDelimiter name.toList) := by
  rcases h.read?_identifier notBlank with ⟨bare, -, word⟩ | quoted
  · have alone := word [] (by simp)
    rw [List.append_nil] at alone
    exact ⟨_, by rw [bare, alone], .inl rfl⟩
  · have alone := quoted [] (by simp)
    rw [List.append_nil] at alone
    exact ⟨_, alone, .inr rfl⟩

theorem eq_of_identifier_eq (h : d.QuotedFor lx) (notBlank : Text.isBlank name = false)
    (otherNotBlank : Text.isBlank other = false) (same : d.identifier name = d.identifier other) :
    name = other := by
  obtain ⟨x, read, holds⟩ := h.exists_read?_identifier notBlank
  obtain ⟨y, readOther, holdsOther⟩ := h.exists_read?_identifier otherNotBlank
  rw [same, readOther] at read
  obtain ⟨rfl, -⟩ := Prod.mk.inj (Option.some.inj read)
  have text : name.toList = other.toList := by
    rcases holds with rfl | rfl <;> rcases holdsOther with e | e
    · exact Lexeme.word.inj e
    · cases e
    · cases e
    · exact (Lexeme.quoted.inj e).2
  exact String.toList_inj.mp text

end QuotedFor

/-- The lexer of a dialect reads a quoted string as one token that stands for the string, and a quoted name as
one that stands for the name. A column is a bare word that is its name and not reserved, or a quoted name, so
no two columns are written alike. -/
theorem Reader.reads_back (reader : Reader d lx) :
    (∀ s : String, ∀ rest : List Char, rest.head? ≠ some '\'' →
      lx.read? ((d.quoteString s).toList ++ rest) = some (.quoted '\'' s.toList, rest)) ∧
    (∀ s : String, ∀ rest : List Char, rest.head? ≠ some lx.nameDelimiter →
      lx.read? ((d.quoteIdentifier s).toList ++ rest) =
        some (.quoted lx.nameDelimiter s.toList, rest)) ∧
    (∀ name, Text.isBlank name = false →
      (d.identifier name = name ∧ (∀ word ∈ reservedWords, ¬ IsCasingOf word name) ∧
        ∀ rest : List Char, (∀ c ∈ rest.head?, continuesWord c = false) →
          lx.read? (name.toList ++ rest) = some (.word name.toList, rest)) ∨
      ∀ rest : List Char, rest.head? ≠ some lx.nameDelimiter →
        lx.read? ((d.identifier name).toList ++ rest) =
          some (.quoted lx.nameDelimiter name.toList, rest)) ∧
    ∀ name other, Text.isBlank name = false → Text.isBlank other = false →
      d.identifier name = d.identifier other → name = other := by
  have quoted := reader.quotedFor
  refine ⟨quoted.string, quoted.name, fun name notBlank => ?_, fun name other => quoted.eq_of_identifier_eq⟩
  rcases quoted.read?_identifier notBlank with ⟨bare, notReserved, word⟩ | token
  · exact .inl ⟨bare, not_casing_of_not_reserved notReserved, word⟩
  · exact .inr token

/-- A string that ends in a backslash behind an apostrophe, a name that holds a delimiter, and a reserved
word. -/
theorem Reader.reads_back_hostile :
    let lx := Lexer.backslashed
    let d := Dialect.mysql
    Reader d lx ∧
      lx.read? ((d.quoteString "it's\\").toList ++ ", '".toList) =
        some (.quoted '\'' "it's\\".toList, ", '".toList) ∧
      lx.read? ((d.quoteIdentifier "a\x60").toList ++ " = 1".toList) =
        some (.quoted '\x60' "a\x60".toList, " = 1".toList) ∧
      d.identifier "Order" ≠ d.identifier "\x60Order\x60" := by
  intro lx d
  obtain ⟨string, name, -, distinct⟩ := Reader.reads_back Reader.mysql
  refine ⟨.mysql, string _ _ (by decide), name _ _ (by decide), fun same => ?_⟩
  exact absurd (distinct _ _ (by decide) (by decide) same) (by decide)

end Dialect

end ContentQuery
