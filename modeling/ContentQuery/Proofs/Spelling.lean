import ContentQuery.Dialect.Builtin
import ContentQuery.Proofs.Composition
import ContentQuery.Text.Blank

/-!
# Spelling of literals and names

What the known dialects write for a value or a name is composed of whole tokens. Numbers need no
quotes, dates and bytes hold nothing that means something inside quotes, and all other texts are
quoted as the reader of the dialect takes them. Only an empty list is written as parentheses around nothing.
-/

namespace ContentQuery

variable {lx : Lexer} {c : Char} {named : Prop}

/-! ### Numbers -/

theorem isSolid_of_isDigit (h : c.isDigit = true) : isSolid c = true :=
  isSolid_of h

theorem isDigit_of_mem_padded {k n : Nat} (h : c ∈ List.replicate k '0' ++ Nat.toDigits 10 n) :
    c.isDigit = true := by
  rcases List.mem_append.mp h with zero | digit
  · rw [List.eq_of_mem_replicate zero]
    rfl
  · exact Nat.isDigit_of_mem_toDigits (by decide) (by decide) digit

/-- A word with or without a minus sign before it. -/
def IsNumeral (s : List Char) : Prop :=
  ∃ (negative : Bool) (body : List Char), Solid body ∧ body ≠ [] ∧
    s = if negative then '-' :: body else body

theorem Composed.of_isNumeral {s : List Char} (h : IsNumeral s) : Composed lx named s False := by
  obtain ⟨negative, body, solid, ne, rfl⟩ := h
  cases negative with
  | false => exact .of_inert solid.inert fun _ => ne
  | true => exact .signed solid.inert ne

theorem Integer.isNumeral_text (n : Integer) : IsNumeral n.text.toList := by
  have digits (m : Nat) : Solid m.repr.toList := by
    intro c mem
    rw [Nat.toList_repr] at mem
    exact isSolid_of_isDigit (Nat.isDigit_of_mem_toDigits (by decide) (by decide) mem)
  have some (m : Nat) : m.repr.toList ≠ [] := by
    simp [Nat.toDigits_ne_nil]
  unfold Integer.text
  cases n.val with
  | ofNat m => exact ⟨false, _, digits m, some m, rfl⟩
  | negSucc m =>
    refine ⟨true, _, digits (m + 1), some (m + 1), ?_⟩
    show ("-" ++ (m + 1).repr).toList = _
    rw [String.toList_append]
    rfl

namespace Binary

theorem isSolid_of_mem_positional {d : Digits} (h : c ∈ positional d) : isSolid c = true := by
  have zeros (k : Nat) := @isDigit_of_mem_padded c k d.significand
  unfold positional at h
  dsimp only at h
  split at h
  · rcases List.mem_append.mp h with digit | zero
    · exact isSolid_of_isDigit (zeros 0 digit)
    · rw [List.eq_of_mem_replicate zero]
      rfl
  · rcases List.mem_append.mp h with whole | fraction
    · exact isSolid_of_isDigit (zeros _ (List.mem_of_mem_take whole))
    · rcases List.mem_cons.mp fraction with rfl | place
      · rfl
      · exact isSolid_of_isDigit (zeros _ (List.mem_of_mem_drop place))

theorem positional_ne_nil (d : Digits) : positional d ≠ [] := by
  unfold positional
  dsimp only
  split
  · simp [Nat.toDigits_ne_nil]
  · simp

theorem isNumeral_text {f : BinaryFormat} (x : Binary f) : IsNumeral x.text.toList := by
  unfold text withSign
  split
  · exact ⟨false, _, by decide, by decide, rfl⟩
  · rw [String.toList_ofList]
    refine ⟨x.negative, _, ?_, ?_, rfl⟩
    · split
      · decide
      · exact fun c => isSolid_of_mem_positional
    · split
      · decide
      · exact positional_ne_nil _

end Binary

theorem Decimal.isNumeral_text (d : Decimal) : IsNumeral d.text.toList := by
  have solid (k : Nat) (c : Char) (h : c ∈ List.replicate k '0' ++ Nat.toDigits 10 d.mantissa) :=
    isSolid_of_isDigit (isDigit_of_mem_padded h)
  have long : d.scale < (List.replicate (d.scale + 1 - (Nat.toDigits 10 d.mantissa).length) '0' ++
      Nat.toDigits 10 d.mantissa).length := by
    rw [List.length_append, List.length_replicate]
    omega
  have sign (body : List Char) :
      (if d.negative then ['-'] else []) ++ body = if d.negative then '-' :: body else body := by
    cases d.negative <;> rfl
  unfold Decimal.text
  dsimp only
  rw [String.toList_ofList, List.append_assoc, sign]
  refine ⟨d.negative, _, ?_, ?_, rfl⟩
  · intro c mem
    rcases List.mem_append.mp mem with whole | fraction
    · exact solid _ c (List.mem_of_mem_take whole)
    · split at fraction
      · cases fraction
      · rcases List.mem_cons.mp fraction with rfl | place
        · rfl
        · exact solid _ c (List.mem_of_mem_drop place)
  · intro empty
    have whole := congrArg List.length (List.append_eq_nil_iff.mp empty).1
    rw [List.length_take, List.length_nil] at whole
    omega

/-! ### Dates, times and bytes -/

/-- Characters that mean nothing between apostrophes. -/
def isOrdinary (c : Char) : Bool :=
  c != '\'' && c != '\\'

/-- A text that can stand between apostrophes as it is. -/
def Ordinary (s : String) : Prop :=
  ∀ c ∈ s.toList, isOrdinary c = true

instance (s : String) : Decidable (Ordinary s) :=
  decidable_of_iff (s.toList.all isOrdinary = true) List.all_eq_true

namespace Ordinary

variable {a b : String}

theorem append (ha : Ordinary a) (hb : Ordinary b) : Ordinary (a ++ b) := by
  intro c mem
  rw [String.toList_append] at mem
  exact (List.mem_append.mp mem).elim (ha c) (hb c)

theorem padded (width n : Nat) : Ordinary (padded width n) := by
  intro c mem
  have digit : c.isDigit = true := isDigit_of_mem_padded (by simpa [ContentQuery.padded] using mem)
  simp only [isOrdinary, Bool.and_eq_true, bne_iff_ne]
  constructor <;> (rintro rfl; cases digit)

theorem yearText (year : Int) : Ordinary (yearText year) := by
  unfold ContentQuery.yearText
  split
  · exact padded 4 _
  · refine append ?_ (padded 4 _)
    split <;> decide

theorem fraction (style : FractionStyle) (nano : Nat) : Ordinary (style.text nano) := by
  have point : Ordinary "." := by decide
  have nothing : Ordinary "" := by decide
  unfold FractionStyle.text
  cases style with
  | omitted => exact nothing
  | micro => exact point.append (padded 6 _)
  | exact =>
    dsimp only
    split
    · exact nothing
    · split
      · exact point.append (padded 3 _)
      · split
        · exact point.append (padded 6 _)
        · exact point.append (padded 9 _)

theorem date (d : Date) : Ordinary d.text := by
  have hyphen : Ordinary "-" := by decide
  exact ((((yearText _).append hyphen).append (padded 2 _)).append hyphen).append (padded 2 _)

theorem dateTime (dt : DateTime) (style : FractionStyle) : Ordinary (dt.text " " style) := by
  have colon : Ordinary ":" := by decide
  have blank : Ordinary " " := by decide
  have clock : Ordinary (dt.time.text style) :=
    (((((padded 2 _).append colon).append (padded 2 _)).append colon).append (padded 2 _)).append
      (fraction style _)
  exact ((date dt.date).append blank).append clock

theorem hexText (b : List UInt8) : Ordinary (hexText b) := by
  have digit : ∀ n < 16, isOrdinary (Text.hexDigit n) = true := by decide
  have digits (width n : Nat) : ∀ c ∈ Text.hexDigits width n, isOrdinary c = true := by
    induction width generalizing n with
    | zero => simp [Text.hexDigits]
    | succ width ih =>
      intro c mem
      rcases List.mem_append.mp mem with high | low
      · exact ih _ c high
      · rw [List.mem_singleton.mp low]
        exact digit _ (Nat.mod_lt n (by decide))
  intro c mem
  rw [ContentQuery.hexText, String.toList_ofList] at mem
  obtain ⟨n, -, mem⟩ := List.mem_flatMap.mp mem
  exact digits 2 _ c mem

end Ordinary

theorem double_eq_self {special : Char → Bool} {s : List Char} (h : ∀ c ∈ s, special c = false) :
    Text.double special s = s := by
  induction s with
  | nil => rfl
  | cons c s ih =>
    obtain ⟨head, tail⟩ := List.forall_mem_cons.mp h
    simpa [Text.double, head] using ih tail

theorem Composed.quotedText {q : Char} {special : Char → Bool} {s : String} (opening : lx.opens q = true)
    (same : ∀ c, special c = lx.isSpecial q c) : Composed lx named (Text.quoted q special s).toList False := by
  rw [Text.quoted, String.toList_ofList, funext same]
  exact .quoted opening

theorem Composed.doubled {q : Char} {s : String} (opening : lx.opens q = true)
    (plain : (lx.escapes && q == '\'') = false) : Composed lx named (Text.quoted q (· == q) s).toList False :=
  .quotedText opening (Lexer.isSpecial_eq plain)

theorem Ordinary.double_eq_self {s : String} (h : Ordinary s) :
    Text.double (lx.isSpecial '\'') s.toList = s.toList := by
  refine ContentQuery.double_eq_self fun c mem => ?_
  have ordinary := h c mem
  simp only [isOrdinary, Bool.and_eq_true, bne_iff_ne] at ordinary
  simp [Lexer.isSpecial, Lexer.isEscape, ordinary.1, ordinary.2]

theorem Composed.stamped (word : String) {s : String} (inert : Inert word.toList)
    (h : Ordinary s) : Composed lx named (word ++ "'" ++ s ++ "'").toList False := by
  have token : Composed lx named ('\'' :: (Text.double (lx.isSpecial '\'') s.toList ++ ['\''])) False :=
    .quoted (by simp [Lexer.opens])
  rw [h.double_eq_self] at token
  simpa using token.inert_append inert

theorem Composed.listed {α : Type} {items : List α} {text : α → String} {gapAt : α → Prop}
    (some : named → items ≠ []) (h : ∀ x ∈ items, Composed lx named (text x).toList (gapAt x)) :
    Composed lx named (", ".intercalate (items.map text)).toList (∃ x ∈ items, gapAt x) := by
  rw [String.toList_intercalate, List.map_map]
  exact .intercalate (by decide) (by decide) some h

/-! ### Names -/

theorem solid_of_isBareFrom {first : Bool} {s : List Char} (h : isBareFrom first s = true) :
    Solid s := by
  induction s generalizing first with
  | nil => exact fun _ mem => by cases mem
  | cons c s ih =>
    simp only [isBareFrom, Bool.and_eq_true] at h
    obtain ⟨⟨⟨⟨-, noHyphen⟩, -⟩, plain⟩, rest⟩ := h
    have letter : (c != '-' && Name.isPlain c first) = true := by simp [plain, bne_iff_ne.mp noHyphen]
    refine List.forall_mem_cons.mpr ⟨?_, ih rest⟩
    cases first with
    | true => exact isSolid_of (p := fun c => c != '-' && Name.isPlain c true) letter
    | false => exact isSolid_of (p := fun c => c != '-' && Name.isPlain c false) letter

theorem solid_of_isBareName {name : String} (h : isBareName name = true) : Solid name.toList := by
  rw [isBareName, Bool.and_eq_true] at h
  exact solid_of_isBareFrom h.2

theorem Composed.name {name : String} {quote : String → String} (some : named → Text.isBlank name = false)
    (h : Composed lx named (quote name).toList False) :
    Composed lx named (if isBareName name then name else quote name).toList False := by
  split
  · rename_i bare
    refine .of_inert (solid_of_isBareName bare).inert fun all nothing => ?_
    have filled := some all
    rw [Text.isBlank, nothing] at filled
    cases filled
  · exact h

/-! ### Empty lists -/

namespace Value

/-- An empty list, or a list with one somewhere in it. -/
inductive HoldsEmptyList : Value → Prop
  | empty : HoldsEmptyList (list [])
  | inside {items : List Value} {v : Value} (mem : v ∈ items) (h : HoldsEmptyList v) :
      HoldsEmptyList (list items)

theorem holdsEmptyList_cons {v : Value} {rest : List Value} :
    (list (v :: rest)).HoldsEmptyList ↔ ∃ w ∈ v :: rest, w.HoldsEmptyList := by
  constructor
  · intro h
    cases h with
    | inside mem h => exact ⟨_, mem, h⟩
  · rintro ⟨w, mem, h⟩
    exact .inside mem h

end Value

/-! ### Dialects -/

namespace Dialect

/-- What a lexer needs of a dialect: every part that is not fixed text is composed, and of such parts only a
list has parentheses around nothing. -/
structure ReadableBy (d : Dialect) (lx : Lexer) : Prop where
  placeholder : ∀ {named} seq name, Composed lx named (d.placeholder seq name).toList False
  identifier : ∀ {named : Prop} name, (named → Text.isBlank name = false) →
    Composed lx named (d.identifier name).toList False
  string : ∀ {named} s, Composed lx named (d.quoteString s).toList False
  bool : ∀ {named} b, Composed lx named (d.boolLiteral b).toList False
  date : ∀ {named} day, Composed lx named (d.dateLiteral day).toList False
  dateTime : ∀ {named} dt, Composed lx named (d.dateTimeLiteral dt).toList False
  bytes : ∀ {named} b, Composed lx named (d.bytesLiteral b).toList False

variable {d : Dialect}

/-- Two parentheses with nothing between them are an empty list. -/
theorem ReadableBy.literal (h : d.ReadableBy lx) (v : Value) :
    Composed lx named (d.literal v).toList v.HoldsEmptyList := by
  have none {v : Value} (leaf : ∀ items, v ≠ .list items) : False ↔ v.HoldsEmptyList := by
    refine ⟨False.elim, fun holds => ?_⟩
    cases holds <;> exact leaf _ rfl
  induction v with
  | null =>
    show Composed lx named "NULL".toList _
    exact (Composed.of_inert (by decide) fun _ => by decide).congr (none nofun)
  | bool b => exact (h.bool b).congr (none nofun)
  | char c => exact (h.string c.toString).congr (none nofun)
  | str s => exact (h.string s).congr (none nofun)
  | int n => exact (Composed.of_isNumeral n.isNumeral_text).congr (none nofun)
  | single x => exact (Composed.of_isNumeral x.isNumeral_text).congr (none nofun)
  | double x => exact (Composed.of_isNumeral x.isNumeral_text).congr (none nofun)
  | bytes b => exact (h.bytes b).congr (none nofun)
  | date day => exact (h.date day).congr (none nofun)
  | dateTime dt | dateTimeUtc dt => exact (h.dateTime dt).congr (none nofun)
  | decimal x => exact (Composed.of_isNumeral x.isNumeral_text).congr (none nofun)
  | map entries => exact (h.string _).congr (none nofun)
  | list items ih =>
    cases items with
    | nil =>
      have written : (d.literal (.list [])).toList = ['(', ')'] := by
        simp [Dialect.literal, literals, Value.parenthesized]
      rw [written]
      exact Composed.empty.congr (iff_of_true trivial Value.HoldsEmptyList.empty)
    | cons v rest =>
      have parts : Composed lx named (", ".intercalate (d.literals (v :: rest))).toList
          (∃ w ∈ v :: rest, w.HoldsEmptyList) := by
        rw [literals_eq_map]
        exact .listed (fun _ => List.cons_ne_nil _ _) ih
      rw [Value.holdsEmptyList_cons]
      simpa [Dialect.literal, Value.parenthesized] using parts.enclosed

/-- The lexers that read what the known dialects write. -/
inductive Reader : Dialect → Lexer → Prop
  | ansi : Reader ansi .standard
  | sqlite : Reader sqlite .standard
  | mysql : Reader mysql .backslashed

theorem Reader.readable (h : Reader d lx) : d.ReadableBy lx := by
  have mark {named : Prop} : Composed lx named "?".toList False :=
    .of_inert (by decide) fun _ => by decide
  have bytes {named : Prop} (b : List UInt8) :
      Composed lx named ("X" ++ "'" ++ hexText b ++ "'").toList False :=
    .stamped "X" (by decide) (.hexText b)
  have day {named : Prop} (d : Date) : Composed lx named ("" ++ "'" ++ d.text ++ "'").toList False :=
    .stamped "" (by decide) (.date d)
  have moment {named : Prop} (style : FractionStyle) (dt : DateTime) :
      Composed lx named ("" ++ "'" ++ dt.text " " style ++ "'").toList False :=
    .stamped "" (by decide) (.dateTime dt style)
  cases h with
  | ansi =>
    exact {
      placeholder := fun _ _ => mark
      identifier := fun _ some => .name some (.doubled (by decide) (by decide))
      string := fun _ => .doubled (by decide) (by decide)
      bool := fun b => .of_inert (by cases b <;> decide) fun _ => by cases b <;> decide
      date := fun d => .stamped "DATE " (by decide) (.date d)
      dateTime := fun dt => .stamped "TIMESTAMP " (by decide) (.dateTime dt _)
      bytes }
  | sqlite =>
    exact {
      placeholder := fun _ _ => mark
      identifier := fun _ some => .name some (.doubled (by decide) (by decide))
      string := fun _ => .doubled (by decide) (by decide)
      bool := fun b => .of_inert (by cases b <;> decide) fun _ => by cases b <;> decide
      date := day
      dateTime := moment .exact
      bytes }
  | mysql =>
    exact {
      placeholder := fun _ _ => mark
      identifier := fun _ some => .name some (.doubled (by decide) (by decide))
      string := fun _ => .quotedText (by decide) fun c => Bool.or_comm ..
      bool := fun b => .of_inert (by cases b <;> decide) fun _ => by cases b <;> decide
      date := day
      dateTime := moment .micro
      bytes }

end Dialect

end ContentQuery
