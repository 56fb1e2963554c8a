import ContentQuery.Text.Quoted

/-!
# Reading a query back

A lexer cuts the text of a query into quoted tokens and the characters outside them. Strings stand
between apostrophes and names between a delimiter of their own; a delimiter inside is written twice,
and some lexers also take the character after a backslash in a string as it is.
-/

namespace ContentQuery

structure Lexer where
  nameDelimiter : Char
  /-- Whether a backslash in a string takes the next character as it is. -/
  escapes : Bool
  isDelimiter : nameDelimiter = '"' ∨ nameDelimiter = '\x60' := by decide

inductive Token where
  /-- A string or a name, by its delimiter and by what it stands for. -/
  | quoted (delimiter : Char) (content : List Char)
  | plain (c : Char)
  deriving Repr, DecidableEq

namespace Token

def plain? : Token → Option Char
  | quoted .. => none
  | plain c => some c

def outside (ts : List Token) : List Char :=
  ts.filterMap plain?

theorem outside_append (ts us : List Token) : outside (ts ++ us) = outside ts ++ outside us :=
  List.filterMap_append

theorem outside_map_plain (s : List Char) : outside (s.map plain) = s := by
  simp [outside, plain?, List.filterMap_map, Function.comp_def]

end Token

namespace Lexer

def standard : Lexer where
  nameDelimiter := '"'
  escapes := false

/-- Names stand between grave accents, and a backslash in a string escapes. -/
def backslashed : Lexer where
  nameDelimiter := '\x60'
  escapes := true

def opens (lx : Lexer) (c : Char) : Bool :=
  c == '\'' || c == lx.nameDelimiter

/-- Whether a character inside a quoted token takes the next one as it is. -/
def isEscape (lx : Lexer) (delimiter c : Char) : Bool :=
  lx.escapes && delimiter == '\'' && c == '\\'

/-- Where a lexer stands; `content` has been read since the delimiter. -/
inductive State where
  | outside
  | inside (delimiter : Char) (content : List Char)
  | escaped (delimiter : Char) (content : List Char)

/-- The tokens of a text, unless it ends inside a quoted one. -/
def scan (lx : Lexer) : State → List Char → Option (List Token)
  | .outside, [] => some []
  | .outside, c :: rest =>
    if lx.opens c then scan lx (.inside c []) rest else (scan lx .outside rest).map (.plain c :: ·)
  | .inside _ _, [] | .escaped _ _, [] => none
  | .inside q content, c :: rest =>
    if c = q then
      match rest with
      | [] => some [.quoted q content]
      | next :: after =>
        if next = q then scan lx (.inside q (content ++ [q])) after
        else (scan lx .outside (next :: after)).map (.quoted q content :: ·)
    else if lx.isEscape q c then scan lx (.escaped q content) rest
    else scan lx (.inside q (content ++ [c])) rest
  | .escaped q content, c :: rest => scan lx (.inside q (content ++ [c])) rest

def tokens? (lx : Lexer) (s : String) : Option (List Token) :=
  lx.scan .outside s.toList

/-- What a quoted token stands for, and the text behind it, in a text that begins behind the delimiter. -/
def close? (lx : Lexer) (q : Char) : List Char → Option (List Char × List Char)
  | [] => none
  | c :: rest =>
    if c = q then
      match rest with
      | [] => some ([], [])
      | next :: after =>
        if next = q then (close? lx q after).map (Prod.map (q :: ·) id) else some ([], next :: after)
    else if lx.isEscape q c then
      match rest with
      | [] => none
      | next :: after => (close? lx q after).map (Prod.map (next :: ·) id)
    else (close? lx q rest).map (Prod.map (c :: ·) id)

variable {lx : Lexer} {q c : Char} {content s rest : List Char}

/-! ### Reading what quoting writes -/

theorem scan_doubled :
    lx.scan (.inside q content) (q :: q :: rest) = lx.scan (.inside q (content ++ [q])) rest := by
  simp [scan]

theorem scan_closed (h : rest.head? ≠ some q) :
    lx.scan (.inside q content) (q :: rest) = (lx.scan .outside rest).map (.quoted q content :: ·) := by
  cases rest with
  | nil => simp [scan]
  | cons c rest =>
    have ne : c ≠ q := fun e => h (by rw [e]; rfl)
    conv => lhs; rw [scan]
    simp only [if_true, if_neg ne]

theorem scan_taken (ne : c ≠ q) (h : lx.isEscape q c = false) :
    lx.scan (.inside q content) (c :: rest) = lx.scan (.inside q (content ++ [c])) rest := by
  cases rest <;> simp [scan, ne, h]

theorem scan_escaped (ne : c ≠ q) (h : lx.isEscape q c = true) (next : Char) :
    lx.scan (.inside q content) (c :: next :: rest) = lx.scan (.inside q (content ++ [next])) rest := by
  simp [scan, ne, h]

/-- From inside quotes, a lexer first reads what closes them. -/
theorem scan_inside (content s : List Char) : lx.scan (.inside q content) s =
    (lx.close? q s).bind fun (more, behind) =>
      (lx.scan .outside behind).map (.quoted q (content ++ more) :: ·) := by
  -- Each step of `close?` takes one character into the content, and `more` gets the others.
  have longer (c : Char) (content : List Char) (closed : Option (List Char × List Char)) :
      (closed.bind fun (more, behind) =>
          (lx.scan .outside behind).map (.quoted q (content ++ [c] ++ more) :: ·)) =
        (closed.map (Prod.map (c :: ·) id)).bind fun (more, behind) =>
          (lx.scan .outside behind).map (.quoted q (content ++ more) :: ·) := by
    cases closed <;> simp
  induction s using close?.induct lx q generalizing content with
  | case1 => rfl
  | case2 =>
    rw [scan_closed (by simp)]
    simp [close?]
  | case3 after ih =>
    rw [scan_doubled, ih, longer]
    simp [close?]
  | case4 next after ne =>
    rw [scan_closed (by simpa using ne)]
    simp [close?, ne]
  | case5 c ne escape => simp [scan, close?, ne, escape]
  | case6 c ne escape next after ih =>
    rw [scan_escaped ne escape, ih, longer]
    simp [close?, ne, escape]
  | case7 c rest ne noEscape ih =>
    have taken : lx.isEscape q c = false := by simpa using noEscape
    rw [scan_taken ne taken, ih, longer]
    cases rest <;> simp [close?, ne, taken]

/-- What has to be written twice inside quotes. -/
def isSpecial (lx : Lexer) (delimiter c : Char) : Bool :=
  c == delimiter || lx.isEscape delimiter c

/-- Where nothing escapes, only the delimiter itself is written twice. -/
theorem isSpecial_eq (plain : (lx.escapes && q == '\'') = false) (c : Char) :
    (c == q) = lx.isSpecial q c := by
  simp [isSpecial, isEscape, plain]

theorem close?_double (h : rest.head? ≠ some q) :
    lx.close? q (Text.double (lx.isSpecial q) s ++ q :: rest) = some (s, rest) := by
  induction s with
  | nil =>
    cases rest with
    | nil => simp [Text.double, close?]
    | cons c rest =>
      have ne : c ≠ q := fun e => h (by rw [e]; rfl)
      simp [Text.double, close?, ne]
  | cons c s ih =>
    simp only [Text.double, List.flatMap_cons, List.append_assoc] at ih ⊢
    by_cases delimits : c = q
    · subst c
      rw [if_pos (by simp [isSpecial])]
      simp [close?, ih]
    · cases escape : lx.isEscape q c with
      | true =>
        rw [if_pos (by simp [isSpecial, escape])]
        simp [close?, delimits, escape, ih]
      | false =>
        rw [if_neg (by simp [isSpecial, delimits, escape])]
        simp only [List.singleton_append]
        rw [close?.eq_def]
        simp [delimits, escape, ih]

theorem scan_double (h : rest.head? ≠ some q) :
    lx.scan (.inside q content) (Text.double (lx.isSpecial q) s ++ q :: rest) =
      (lx.scan .outside rest).map (.quoted q (content ++ s) :: ·) := by
  rw [scan_inside, close?_double h]
  rfl

/-- A quoted text is read as one token that stands for the text. -/
theorem scan_quoted (opening : lx.opens q = true) (h : rest.head? ≠ some q) :
    lx.scan .outside (q :: (Text.double (lx.isSpecial q) s ++ [q]) ++ rest) =
      (lx.scan .outside rest).map (.quoted q s :: ·) := by
  simp only [List.cons_append, List.append_assoc, List.nil_append, scan, opening, if_true]
  exact scan_double h

/-- A text without delimiters stays outside, character by character. -/
theorem scan_plain (h : ∀ c ∈ s, lx.opens c = false) :
    lx.scan .outside (s ++ rest) = (lx.scan .outside rest).map (s.map .plain ++ ·) := by
  induction s with
  | nil => simp
  | cons c s ih =>
    obtain ⟨outside, h⟩ := List.forall_mem_cons.mp h
    simp [scan, outside, ih h, Function.comp_def]

/-! ### Texts that can stand next to others -/

/-- A text is read as certain tokens wherever no delimiter follows it. -/
def Reads (lx : Lexer) (s : List Char) (ts : List Token) : Prop :=
  ∀ rest, (∀ c ∈ rest.head?, lx.opens c = false) →
    lx.scan .outside (s ++ rest) = (lx.scan .outside rest).map (ts ++ ·)

variable {a b : List Char} {ts us : List Token}

theorem Reads.tokens? {s : String} (h : lx.Reads s.toList ts) : lx.tokens? s = some ts := by
  simpa [Lexer.tokens?, scan] using h [] (by simp)

theorem Reads.quoted (opening : lx.opens q = true) :
    lx.Reads (q :: (Text.double (lx.isSpecial q) s ++ [q])) [.quoted q s] := by
  intro rest h
  rw [scan_quoted opening]
  · simp
  · intro head
    exact absurd opening (by simp [h q head])

theorem Reads.append (ha : lx.Reads a ts) (hb : lx.Reads b us) (head : ∀ c ∈ b.head?, lx.opens c = false) :
    lx.Reads (a ++ b) (ts ++ us) := by
  intro rest h
  -- A delimiter right after a quoted token would be read as one inside it.
  have next : ∀ c ∈ (b ++ rest).head?, lx.opens c = false := by
    cases b with
    | nil => exact h
    | cons c b => exact head
  rw [List.append_assoc, ha _ next, hb _ h]
  simp [Function.comp_def]

theorem Reads.plain_append (ha : ∀ c ∈ a, lx.opens c = false) (hb : lx.Reads b us) :
    lx.Reads (a ++ b) (a.map .plain ++ us) := by
  intro rest h
  rw [List.append_assoc, scan_plain ha, hb _ h]
  simp [Function.comp_def]

end Lexer

end ContentQuery
