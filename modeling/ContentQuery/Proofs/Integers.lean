import ContentQuery.Proofs.Coercion
import ContentQuery.Proofs.Letters
import ContentQuery.Proofs.Rounding

/-!
# Integers among values

The long type takes exactly the values that stand for an integer of a signed 64-bit word, whatever their
kind, and gives that integer. A text and a decimal are made of an integer by way of such a word, so the
greatest unsigned integers have none.
-/

namespace ContentQuery

/-! ### Whole numbers -/

theorem fraction_eq_iff {p n : Int} {q : Nat} (pos : 0 < q) :
    (p : ℚ) / q = n ↔ (q : Int) ∣ p ∧ p.tdiv q = n := by
  have divisor : (q : Int) ≠ 0 := by omega
  rw [div_eq_iff (by exact_mod_cast divisor)]
  norm_cast
  constructor
  · rintro rfl
    exact ⟨Int.dvd_mul_left .., Int.mul_tdiv_cancel _ divisor⟩
  · rintro ⟨divides, rfl⟩
    exact (Int.tdiv_mul_cancel divides).symm

/-- A numerator with a sign is a multiple if its magnitude is. -/
theorem dvd_signed_iff {negative : Bool} {q m : Nat} :
    (q : Int) ∣ (if negative then -(m : Int) else m) ↔ m % q = 0 := by
  rw [← Nat.dvd_iff_mod_eq_zero, ← Int.natCast_dvd_natCast]
  split
  · exact Int.dvd_neg
  · rfl

namespace Decimal

def rational (d : Decimal) : ℚ :=
  d.numerator / 10 ^ d.scale

theorem rational_eq_div (d : Decimal) : d.rational = (d.numerator : ℚ) / (tenTo d.scale : Nat) := by
  unfold rational
  norm_cast

theorem rational_eq_iff {d : Decimal} {n : Int} :
    d.rational = n ↔ d.isWhole = true ∧ d.truncated = n := by
  have pos : 0 < tenTo d.scale := Nat.pow_pos (by decide)
  rw [rational_eq_div, fraction_eq_iff pos, isWhole, beq_iff_eq]
  exact and_congr_left' dvd_signed_iff

theorem rational_ofInteger (n : Integer) : (ofInteger n).rational = n.val := by
  have numerator : (ofInteger n).numerator = n.val := by
    simp only [Decimal.numerator, ofInteger, decide_eq_true_eq]
    split <;> omega
  rw [rational, numerator]
  exact div_one _

end Decimal

namespace Integer

variable {n : Integer}

/-- A number is taken if there is one, a condition holds, and a word of the kind has room for it. -/
theorem bind_ofInt?_eq_some_iff {kind : IntegerKind} {holds : Bool} {k : Option Int} :
    (if holds then k.bind (ofInt? kind) else none) = some n ↔
      n.kind = kind ∧ holds = true ∧ k = some n.val := by
  split
  case isTrue holds =>
    rw [and_iff_right holds, Option.bind_eq_some_iff]
    constructor
    · rintro ⟨m, found, fits⟩
      obtain ⟨same, rfl⟩ := ofInt?_eq_some_iff.mp fits
      exact ⟨same, found⟩
    · rintro ⟨same, found⟩
      exact ⟨n.val, found, ofInt?_eq_some_iff.mpr ⟨same, rfl⟩⟩
  case isFalse fails => simp [fails]

theorem toSigned64?_of_le (h : n.val ≤ IntegerKind.i64.hi) :
    ∃ m, n.toSigned64? = some m ∧ m.val = n.val := by
  have above : IntegerKind.i64.lo ≤ n.val := by
    refine Int.le_trans ?_ n.lo_le
    cases n.kind <;> decide
  exact ⟨⟨.i64, n.val, above, h⟩, dif_pos ⟨above, h⟩, rfl⟩

theorem toSigned64?_of_lt (h : IntegerKind.i64.hi < n.val) : n.toSigned64? = none :=
  dif_neg fun range => Int.not_le.mpr h range.2

end Integer

namespace Binary

variable {f : BinaryFormat} {x : Binary f} {n : Int}

theorem truncated?_of_isFinite (h : x.isFinite = true) :
    x.truncated? = some (x.numerator.tdiv f.unitsPerOne) := by
  unfold truncated? numerator
  rw [datum_eq_finite_iff.mpr ⟨h, rfl, rfl⟩]
  cases x.negative <;> simp [Int.neg_tdiv]

theorem isWhole_iff : x.isWhole = true ↔ x.isFinite = true ∧ (f.unitsPerOne : Int) ∣ x.numerator := by
  rw [isWhole, Bool.and_eq_true, beq_iff_eq]
  exact and_congr_right' dvd_signed_iff.symm

/-- A finite number is an integer if truncation takes nothing away. -/
theorem whole_iff (wide : 2 ≤ f.exponentBits) :
    x.isFinite = true ∧ x.rational = n ↔ x.isWhole = true ∧ x.truncated? = some n := by
  have pos : 0 < f.unitsPerOne := Nat.two_pow_pos _
  rw [rational_eq wide, fraction_eq_iff pos, isWhole_iff, and_assoc]
  refine and_congr_right fun finite => ?_
  rw [truncated?_of_isFinite finite, Option.some_inj]

end Binary

/-! ### Numerals -/

namespace Text

variable {s : List Char} {c : Char} {n : Int}

/-- One or more decimal digits. -/
def IsDigits (s : List Char) : Prop :=
  s ≠ [] ∧ ∀ c ∈ s, c.isDigit = true

/-- The numerals of an integer: digits, and a sign or none before them. -/
inductive Spells : List Char → Int → Prop
  | unsigned {digits : List Char} (h : IsDigits digits) : Spells digits (Nat.ofDigitChars 10 digits 0)
  | plus {digits : List Char} (h : IsDigits digits) : Spells ('+' :: digits) (Nat.ofDigitChars 10 digits 0)
  | minus {digits : List Char} (h : IsDigits digits) : Spells ('-' :: digits) (-Nat.ofDigitChars 10 digits 0)

/-- A text without its blank ends is a numeral of the integer. -/
def Denotes (s : List Char) (n : Int) : Prop :=
  ∃ before numeral after, s = before ++ numeral ++ after ∧ (∀ c ∈ before, isBlankChar c = true) ∧
    (∀ c ∈ after, isBlankChar c = true) ∧ Spells numeral n

theorem isNumeral_iff : Binary.isNumeral s = true ↔ IsDigits s := by
  rw [Binary.isNumeral, Bool.and_eq_true, List.all_eq_true, Bool.not_eq_true', List.isEmpty_eq_false_iff]
  rfl

theorem splitSign_append (h : IsDigits s) (rest : List Char) :
    Binary.splitSign (s ++ rest) = (false, s ++ rest) := by
  obtain ⟨some, digits⟩ := h
  obtain ⟨c, s, rfl⟩ := List.exists_cons_of_ne_nil some
  have unsigned : c ≠ '-' ∧ c ≠ '+' :=
    of_isDigit (P := fun c => c ≠ '-' ∧ c ≠ '+') (by decide) (digits c List.mem_cons_self)
  rw [List.cons_append]
  unfold Binary.splitSign
  split
  case h_1 same => exact absurd (List.cons.inj same).1 unsigned.1
  case h_2 same => exact absurd (List.cons.inj same).1 unsigned.2
  case h_3 => rfl

theorem splitSign_of_isDigits (h : IsDigits s) : Binary.splitSign s = (false, s) := by
  have alone := splitSign_append h []
  rwa [List.append_nil] at alone

theorem spells_iff : Spells s n ↔ IsDigits (Binary.splitSign s).2 ∧
    n = if (Binary.splitSign s).1 then -(Nat.ofDigitChars 10 (Binary.splitSign s).2 0 : Int)
      else Nat.ofDigitChars 10 (Binary.splitSign s).2 0 := by
  constructor
  · intro h
    cases h with
    | unsigned h =>
      rw [splitSign_of_isDigits h]
      exact ⟨h, rfl⟩
    | plus h => exact ⟨h, rfl⟩
    | minus h => exact ⟨h, rfl⟩
  · rintro ⟨digits, rfl⟩
    unfold Binary.splitSign at digits ⊢
    split at digits
    · exact .minus digits
    · exact .plus digits
    · exact .unsigned digits

/-- A word is read off the numerals of its number. -/
theorem readInteger?_eq_some_iff {m : Integer} :
    Value.readInteger? s = some m ↔ m.kind = .i64 ∧ Spells s m.val := by
  rw [spells_iff, ← isNumeral_iff, eq_comm (a := m.val), ← Option.some_inj (b := m.val)]
  exact Integer.bind_ofInt?_eq_some_iff (k := some _)

theorem isBlankChar_of_isDigit (h : c.isDigit = true) : isBlankChar c = false :=
  of_isDigit (P := fun c => isBlankChar c = false) (by decide) h

theorem Spells.ne_nil (h : Spells s n) : s ≠ [] := by
  cases h with
  | unsigned h => exact h.1
  | plus h => exact List.cons_ne_nil _ _
  | minus h => exact List.cons_ne_nil _ _

theorem Spells.mem_cases (h : Spells s n) (mem : c ∈ s) : c.isDigit = true ∨ c = '+' ∨ c = '-' := by
  cases h with
  | unsigned h => exact .inl (h.2 c mem)
  | plus h => exact (List.mem_cons.mp mem).elim (.inr ∘ .inl) (.inl ∘ h.2 c)
  | minus h => exact (List.mem_cons.mp mem).elim (.inr ∘ .inr) (.inl ∘ h.2 c)

theorem Spells.not_blank (h : Spells s n) : ∀ c ∈ s, isBlankChar c = false := by
  intro c mem
  obtain digit | rfl | rfl := h.mem_cases mem
  · exact isBlankChar_of_isDigit digit
  · rfl
  · rfl

theorem trimChars_append {before middle after : List Char} (front : ∀ c ∈ before, isBlankChar c = true)
    (behind : ∀ c ∈ after, isBlankChar c = true) (some : middle ≠ [])
    (solid : ∀ c ∈ middle, isBlankChar c = false) : trimChars (before ++ middle ++ after) = middle := by
  have kept {m : List Char} (some : m ≠ []) (solid : ∀ c ∈ m, isBlankChar c = false) (rest : List Char) :
      (m ++ rest).dropWhile isBlankChar = m ++ rest := by
    cases m with
    | nil => exact absurd rfl some
    | cons c m =>
      rw [List.cons_append, List.dropWhile_cons_of_neg]
      simp [solid c List.mem_cons_self]
  unfold trimChars
  rw [List.append_assoc, List.dropWhile_append_of_pos front, kept some solid, List.reverse_append,
    List.dropWhile_append_of_pos (by simpa using behind)]
  have turned := kept (m := middle.reverse) (by simpa using some) (by simpa using solid) []
  rw [List.append_nil] at turned
  rw [turned, List.reverse_reverse]

theorem exists_trimChars (s : List Char) :
    ∃ before after, s = before ++ trimChars s ++ after ∧ (∀ c ∈ before, isBlankChar c = true) ∧
      ∀ c ∈ after, isBlankChar c = true := by
  have blank (t : List Char) : ∀ c ∈ t.takeWhile isBlankChar, isBlankChar c = true :=
    List.all_eq_true.mp List.all_takeWhile
  let rest := (s.dropWhile isBlankChar).reverse
  refine ⟨s.takeWhile isBlankChar, (rest.takeWhile isBlankChar).reverse, ?_, blank s, ?_⟩
  · rw [trimChars, List.append_assoc, ← List.reverse_append, List.takeWhile_append_dropWhile,
      List.reverse_reverse, List.takeWhile_append_dropWhile]
  · simpa using blank rest

theorem spells_trimChars_iff : Spells (trimChars s) n ↔ Denotes s n := by
  constructor
  · intro spells
    obtain ⟨before, after, parts, front, behind⟩ := exists_trimChars s
    exact ⟨before, _, after, parts, front, behind, spells⟩
  · rintro ⟨before, numeral, after, rfl, front, behind, spells⟩
    rwa [trimChars_append front behind spells.ne_nil spells.not_blank]

end Text

namespace Value

variable {v : Value} {n : Integer}

/-! ### Integers under the long type -/

/-- The integer that a value stands for. -/
inductive Denotes : Value → Int → Prop
  | int (n : Integer) : Denotes (int n) n.val
  | decimal {d : Decimal} {n : Int} (number : d.rational = n) : Denotes (decimal d) n
  | single {x : Single} {n : Int} (finite : x.isFinite = true) (number : x.rational = n) : Denotes (single x) n
  | double {x : Double} {n : Int} (finite : x.isFinite = true) (number : x.rational = n) : Denotes (double x) n
  | str {s : String} {n : Int} (numeral : Text.Denotes s.toList n) : Denotes (str s) n

theorem truncateDouble?_eq_some_iff {x : Double} :
    (if x.isWhole then truncateDouble? x else none) = some n ↔
      n.kind = .i64 ∧ x.isFinite = true ∧ x.rational = n.val := by
  rw [Binary.whole_iff (by decide)]
  exact Integer.bind_ofInt?_eq_some_iff

/-- A word is made of the values that stand for its integer, and of no others. -/
theorem toLong?_eq_some_iff (v : Value) : v.toLong? = some n ↔ n.kind = .i64 ∧ v.Denotes n.val := by
  cases v with
  | int m =>
    refine Integer.ofInt?_eq_some_iff.trans (and_congr_right' ⟨?_, ?_⟩)
    · intro same
      rw [same]
      exact .int m
    · intro denoted
      generalize n.val = k at denoted
      cases denoted
      rfl
  | decimal d =>
    have number : (decimal d).Denotes n.val ↔ d.rational = n.val := ⟨fun | .decimal h => h, .decimal⟩
    rw [number, Decimal.rational_eq_iff, ← Option.some_inj (b := n.val)]
    exact Integer.bind_ofInt?_eq_some_iff (k := some d.truncated)
  | single x =>
    -- The widened number decides, which is the number itself.
    have number : (single x).Denotes n.val ↔ x.isFinite = true ∧ x.rational = n.val :=
      ⟨fun | .single finite h => ⟨finite, h⟩, fun ⟨finite, h⟩ => .single finite h⟩
    rw [number, toLong?, truncateDouble?_eq_some_iff, Single.isFinite_widened]
    refine and_congr_right' (and_congr_right fun finite => ?_)
    rw [Single.rational_widened finite]
  | double x =>
    refine truncateDouble?_eq_some_iff.trans (and_congr_right' ⟨?_, ?_⟩)
    · exact fun ⟨finite, h⟩ => .double finite h
    · exact fun | .double finite h => ⟨finite, h⟩
  | str s =>
    rw [toLong?, Text.readInteger?_eq_some_iff, Text.spells_trimChars_iff]
    exact and_congr_right' ⟨.str, fun | .str h => h⟩
  | _ => exact iff_of_false nofun (fun ⟨_, h⟩ => nomatch h)

theorem coerce_long_eq_ok_iff {w : Value} (leaf : v.isLeaf = true) :
    v.coerce .long = .ok w ↔ ∃ n : Integer, n.kind = .i64 ∧ v.Denotes n.val ∧ w = int n := by
  rw [coerce_of_isLeaf leaf, convert?]
  simp only [← and_assoc, ← toLong?_eq_some_iff]
  cases v.toLong? <;> simp [eq_comm]

/-- The long type gives the integer that a value stands for, and takes each that is in range. -/
theorem coerce_long_exact (leaf : v.isLeaf = true) :
    (∀ n : Integer, n.kind = .i64 → (v.coerce .long = .ok (int n) ↔ v.Denotes n.val)) ∧
      ((∃ w, v.coerce .long = .ok w) ↔
        ∃ n, v.Denotes n ∧ IntegerKind.i64.lo ≤ n ∧ n ≤ IntegerKind.i64.hi) := by
  refine ⟨fun n kind => ?_, ?_, ?_⟩
  · rw [coerce_long_eq_ok_iff leaf]
    constructor
    · rintro ⟨m, -, denoted, same⟩
      rwa [Value.int.inj same]
    · exact fun denoted => ⟨n, kind, denoted, rfl⟩
  · rintro ⟨w, coerced⟩
    obtain ⟨n, kind, denoted, -⟩ := (coerce_long_eq_ok_iff leaf).mp coerced
    exact ⟨n.val, denoted, kind ▸ n.lo_le, kind ▸ n.le_hi⟩
  · rintro ⟨n, denoted, lo, hi⟩
    exact ⟨_, (coerce_long_eq_ok_iff leaf).mpr ⟨⟨.i64, n, lo, hi⟩, rfl, denoted, rfl⟩⟩

/-- Of the two binary numbers of magnitude `2 ^ 63`, the negative one is in range. -/
theorem coerce_long_exact_edges :
    let edge (negative : Bool) : Double := Binary.ofMagnitudeBits .double negative 0x43E0000000000000
    (double (edge true)).coerce .long = .ok (int ⟨.i64, -9223372036854775808, by decide, by decide⟩) ∧
      ¬∃ w, (double (edge false)).coerce .long = .ok w := by
  intro edge
  have finite (negative : Bool) : (edge negative).isFinite = true := by cases negative <;> decide
  have number (negative : Bool) : (edge negative).rational =
      if negative then -9223372036854775808 else 9223372036854775808 := by
    have exponent : (edge negative).exponentField = 1086 := by cases negative <;> decide
    have fraction : (edge negative).fractionField = 0 := by cases negative <;> decide
    have sign : (edge negative).negative = negative := by cases negative <;> decide
    have bias : BinaryFormat.double.bias = 1023 := by decide
    rw [Binary.rational, exponent, fraction, sign, bias]
    cases negative <;> norm_num
  constructor
  · refine ((coerce_long_exact rfl).1 _ rfl).mpr (.double (finite true) ?_)
    rw [number]
    norm_num
  · rw [(coerce_long_exact rfl).2]
    rintro ⟨n, denoted, -, hi⟩
    obtain _ | _ | _ | ⟨-, equal⟩ := denoted
    rw [number] at equal
    obtain rfl : 9223372036854775808 = n := by exact_mod_cast equal
    exact absurd hi (by decide)

/-! ### Integers under the types of texts and decimals -/

/-- An integer that fits a signed 64-bit word has its numeral under the types of texts, and under the
decimal type the decimal equal to it. All three types refuse a greater one. -/
theorem coerce_integer (n : Integer) :
    ((int n).coerce .string =
        if n.val ≤ IntegerKind.i64.hi then .ok (str (toString n.val)) else .error ⟨int n, .string⟩) ∧
      ((int n).coerce .reference =
        if n.val ≤ IntegerKind.i64.hi then .ok (str (toString n.val)) else .error ⟨int n, .reference⟩) ∧
      ((int n).coerce .decimal =
        if n.val ≤ IntegerKind.i64.hi then .ok (decimal (.ofInteger n)) else .error ⟨int n, .decimal⟩) ∧
      (Decimal.ofInteger n).rational = n.val := by
  refine and_assoc.mp (and_assoc.mp ⟨?_, Decimal.rational_ofInteger n⟩)
  simp only [coerce_of_isLeaf (v := int n) rfl, convert?, toText?, toDecimal?, toSigned64?]
  by_cases fits : n.val ≤ IntegerKind.i64.hi
  · obtain ⟨m, taken, same⟩ := Integer.toSigned64?_of_le fits
    simp [taken, fits, Integer.text, Decimal.ofInteger, same]
  · simp [Integer.toSigned64?_of_lt (Int.not_le.mp fits), fits]

/-- The least integer that all three types refuse. -/
theorem coerce_integer_unsigned :
    ∃ n : Integer, n.kind = .u64 ∧ n.val = 9223372036854775808 ∧
      (¬∃ w, (int n).coerce .string = .ok w) ∧ (¬∃ w, (int n).coerce .reference = .ok w) ∧
        ¬∃ w, (int n).coerce .decimal = .ok w :=
  ⟨⟨.u64, 9223372036854775808, by decide, by decide⟩, rfl, rfl, nofun, nofun, nofun⟩

end Value

end ContentQuery
