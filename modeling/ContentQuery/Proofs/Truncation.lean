import ContentQuery.Proofs.Integers
import ContentQuery.Proofs.Nearest

/-!
# Truncated numerals

A forced integer is a number without its fraction. Decimals and numerals without a point keep all their
digits. A numeral with a point is rounded to the nearest double-precision number first, and if it has more
than fifteen digits that number may have another integer part.
-/

namespace ContentQuery

/-! ### Integer parts -/

/-- The number without its fraction. -/
def towardZero (x : ℚ) : Int :=
  if 0 ≤ x then ⌊x⌋ else ⌈x⌉

theorem towardZero_intCast (n : Int) : towardZero n = n := by
  unfold towardZero
  split <;> simp

theorem towardZero_div (p : Int) {q : Nat} (pos : 0 < q) : towardZero (p / q) = p.tdiv q := by
  have divisor : (0 : ℚ) < q := by exact_mod_cast pos
  have sign : 0 ≤ (p / q : ℚ) ↔ 0 ≤ p := by rw [le_div_iff₀ divisor, zero_mul, Int.cast_nonneg_iff]
  unfold towardZero
  split
  case isTrue nonneg => rw [Rat.floor_intCast_div_natCast, Int.tdiv_eq_ediv_of_nonneg (sign.mp nonneg)]
  case isFalse negative =>
    rw [sign] at negative
    rw [Rat.ceil_intCast_div_natCast, ← Int.tdiv_eq_ediv_of_nonneg (by omega), Int.neg_tdiv, neg_neg]

theorem towardZero_signed (negative : Bool) (m : Nat) {d : Nat} (pos : 0 < d) :
    towardZero (if negative then -(m / d : ℚ) else m / d) =
      if negative then -((m / d : Nat) : Int) else (m / d : Nat) := by
  cases negative with
  | false => exact towardZero_div m pos
  | true =>
    have number : -(m / d : ℚ) = ((-m : Int) : ℚ) / d := by
      push_cast
      ring
    rw [if_pos rfl, if_pos rfl, number, towardZero_div _ pos, Int.neg_tdiv]
    rfl

theorem towardZero_places (negative : Bool) (m k : Nat) :
    towardZero (if negative then -(m / 10 ^ k : ℚ) else m / 10 ^ k) =
      if negative then -((m / 10 ^ k : Nat) : Int) else (m / 10 ^ k : Nat) := by
  have pos : 0 < 10 ^ k := Nat.pow_pos (by decide)
  rw [← towardZero_signed negative m pos]
  push_cast
  rfl

theorem Decimal.truncated_eq (d : Decimal) : d.truncated = towardZero d.rational := by
  have pos : 0 < tenTo d.scale := Nat.pow_pos (by decide)
  rw [d.rational_eq_div, towardZero_div _ pos, truncated]

/-! ### Fractions of few digits -/

/-- A number of units off by less than the least step of a fraction has the same integer part. -/
theorem div_eq_div_of_near {u unit num den : Nat} (pos : 0 < den)
    (near : |(u * den - num * unit : Int)| < unit) (exact : den ∣ num → u = num / den * unit) :
    u / unit = num / den := by
  obtain ⟨above, below⟩ := abs_lt.mp near
  have more : num * unit < u * den + unit := by
    zify
    linarith
  have less : u * den < (num + 1) * unit := by
    zify
    linarith
  have parts : den * (num / den) + num % den = num := Nat.div_add_mod num den
  have rest : num % den < den := Nat.mod_lt num pos
  generalize num / den = q at *
  have high : u < (q + 1) * unit := by
    have next : num + 1 ≤ den * (q + 1) := by
      rw [Nat.mul_succ]
      omega
    refine Nat.lt_of_mul_lt_mul_right (a := den) ?_
    calc u * den < (num + 1) * unit := less
      _ ≤ den * (q + 1) * unit := Nat.mul_le_mul_right unit next
      _ = (q + 1) * unit * den := by ring
  have low : q * unit ≤ u := by
    rcases Nat.eq_zero_or_pos (num % den) with divides | some
    · exact (exact (Nat.dvd_of_mod_eq_zero divides)).ge
    · have step : (den * q + 1) * unit ≤ num * unit := Nat.mul_le_mul_right unit (by omega)
      refine Nat.le_of_mul_le_mul_right (Nat.le_of_add_le_add_right (b := unit) ?_) pos
      calc q * unit * den + unit = (den * q + 1) * unit := by ring
        _ ≤ u * den + unit := step.trans more.le
  exact Nat.div_eq_of_lt_le low high

namespace Binary

variable {f : BinaryFormat} {num den : Nat}

theorem truncated?_eq {x : Binary f} (wide : 2 ≤ f.exponentBits) (finite : x.isFinite = true) :
    x.truncated? = some (towardZero x.rational) := by
  have pos : 0 < f.unitsPerOne := Nat.two_pow_pos _
  rw [truncated?_of_isFinite finite, rational_eq wide, towardZero_div _ pos]

theorem rounded_near (pos : 0 < den) (short : num < 2 ^ (f.fractionBits + 1))
    (coarse : dropped f num den ≠ 0 ∨ den < 2 * f.unitsPerOne) :
    |((rounded f num den * 2 ^ dropped f num den : Nat) * den - num * f.unitsPerOne : Int)| < f.unitsPerOne := by
  have step : den * 2 ^ dropped f num den < 2 * f.unitsPerOne := by
    by_cases exact : dropped f num den = 0
    · rw [exact, Nat.pow_zero, Nat.mul_one]
      exact coarse.resolve_left (not_not_intro exact)
    · have leading := (Nat.le_div_iff_mul_le pos).mp (pow_le_of_dropped exact)
      refine Nat.lt_of_mul_lt_mul_left (a := 2 ^ f.fractionBits) ?_
      calc 2 ^ f.fractionBits * (den * 2 ^ dropped f num den)
          = 2 ^ f.fractionBits * 2 ^ dropped f num den * den := by ring
        _ ≤ num * f.unitsPerOne := leading
        _ < 2 ^ (f.fractionBits + 1) * f.unitsPerOne :=
          Nat.mul_lt_mul_of_pos_right short (Nat.two_pow_pos _)
        _ = 2 ^ f.fractionBits * (2 * f.unitsPerOne) := by ring
  obtain ⟨half, -⟩ := divNearestEven_half (a := num * f.unitsPerOne)
    (Nat.mul_pos pos (Nat.two_pow_pos (dropped f num den)))
  rw [← rounded] at half
  have distance : ((rounded f num den * 2 ^ dropped f num den : Nat) * den - num * f.unitsPerOne : Int) =
      rounded f num den * (den * 2 ^ dropped f num den : Nat) - (num * f.unitsPerOne : Nat) := by
    push_cast
    ring
  rw [distance]
  omega

/-- Rounding does not carry a fraction over an integer if its numerator fits the significand. -/
theorem units_div_nearest (pos : 0 < den) (room : dropped f num den + 3 < 2 ^ f.exponentBits)
    (short : num < 2 ^ (f.fractionBits + 1)) (deep : f.fractionBits < f.unitExponent)
    (inRange : f.unitExponent + 2 < 2 ^ f.exponentBits) (negative : Bool) :
    (nearest f negative num den).units / f.unitsPerOne = num / den := by
  obtain ⟨-, -, units, -⟩ := nearest_word room negative
  by_cases coarse : dropped f num den ≠ 0 ∨ den < 2 * f.unitsPerOne
  · refine div_eq_div_of_near pos ?_ ?_
    · rw [units]
      exact rounded_near pos short coarse
    · rintro ⟨q, rfl⟩
      rw [Nat.mul_div_cancel_left q pos]
      have fits : q < 2 ^ (f.fractionBits + 1) := (Nat.le_mul_of_pos_left q pos).trans_lt short
      have whole : (nearest f negative (den * q) den).datum = .finite negative (q * 2 ^ f.unitExponent) := by
        refine datum_nearest fits inRange pos ?_
        rw [BinaryFormat.unitsPerOne, twoTo_eq]
        ring
      exact (datum_eq_finite_iff.mp whole).2.2
  · -- The divisor is so great that the fraction and what it is rounded to both stay below one.
    obtain ⟨exact, small⟩ := not_or.mp coarse
    rw [ne_eq, not_not] at exact
    rw [Nat.not_lt] at small
    have unit : 2 ^ f.fractionBits < f.unitsPerOne := Nat.pow_lt_pow_right (by decide) deep
    have half : num * f.unitsPerOne / den < 2 ^ f.fractionBits := by
      rw [Nat.div_lt_iff_lt_mul pos]
      calc num * f.unitsPerOne < 2 ^ (f.fractionBits + 1) * f.unitsPerOne :=
            Nat.mul_lt_mul_of_pos_right short (Nat.two_pow_pos _)
        _ = 2 ^ f.fractionBits * (2 * f.unitsPerOne) := by ring
        _ ≤ 2 ^ f.fractionBits * den := Nat.mul_le_mul_left _ small
    obtain ⟨-, high⟩ := divNearestEven_bounds (num * f.unitsPerOne) den
    rw [units, rounded, exact, Nat.pow_zero, Nat.mul_one, Nat.mul_one]
    rw [Nat.pow_succ] at short
    rw [Nat.div_eq_of_lt (by omega), Nat.div_eq_of_lt (by omega)]

theorem towardZero_nearest (wide : 2 ≤ f.exponentBits) (pos : 0 < den)
    (room : dropped f num den + 3 < 2 ^ f.exponentBits)
    (short : num < 2 ^ (f.fractionBits + 1)) (deep : f.fractionBits < f.unitExponent)
    (inRange : f.unitExponent + 2 < 2 ^ f.exponentBits) (negative : Bool) :
    towardZero (nearest f negative num den).rational =
      towardZero (if negative then -(num / den : ℚ) else num / den) := by
  have unit : 0 < f.unitsPerOne := Nat.two_pow_pos _
  have sign := (nearest_word room negative).2.1
  have units := units_div_nearest pos room short deep inRange negative
  rw [towardZero_signed negative num pos, rational_eq wide, towardZero_div _ unit, numerator, sign, ← units]
  cases negative with
  | false => rfl
  | true => exact Int.neg_tdiv ..

/-! ### Decimal numerals -/

theorem nearestBits_of_lt (small : 2 * (num * f.unitsPerOne) < den) : nearestBits f num den = 0 := by
  have whole : num * f.unitsPerOne / den = 0 := Nat.div_eq_of_lt (by omega)
  unfold nearestBits divNearestEven
  simp [whole, Nat.mod_eq_of_lt (show num * f.unitsPerOne < den by omega), small]

theorem dropped_le {b : Nat} (le : num ≤ 2 ^ b * den) :
    dropped f num den ≤ b + f.unitExponent - f.fractionBits := by
  have whole : num * f.unitsPerOne / den ≤ 2 ^ (b + f.unitExponent) := by
    refine Nat.div_le_of_le_mul ?_
    calc num * f.unitsPerOne ≤ 2 ^ b * den * f.unitsPerOne := Nat.mul_le_mul_right _ le
      _ = den * 2 ^ (b + f.unitExponent) := by
        rw [BinaryFormat.unitsPerOne, twoTo_eq]
        ring
  refine Nat.sub_le_sub_right ?_ _
  generalize num * f.unitsPerOne / den = n at *
  rcases Nat.eq_zero_or_pos n with rfl | some
  · exact Nat.zero_le _
  · rw [← Nat.lt_succ_iff, Nat.log2_lt some.ne', Nat.pow_succ]
    omega

theorem two_pow_le_ten_pow {a b : Nat} (le : a ≤ 3 * b) : 2 ^ a ≤ 10 ^ b :=
  calc 2 ^ a ≤ 2 ^ (3 * b) := Nat.pow_le_pow_right (by decide) le
    _ = 8 ^ b := Nat.pow_mul ..
    _ ≤ 10 ^ b := Nat.pow_le_pow_left (by decide) b

/-- A fraction that is not beyond a word of 64 bits is computed, or is so small that it is zero. -/
theorem ofDecimal_places {negative : Bool} {m k : Nat} (places : k ≠ 0) (le : m ≤ 2 ^ 64 * 10 ^ k) :
    ofDecimal .double negative m (-k) = nearest .double negative m (tenTo k) := by
  have long : 0 < (Nat.toDigits 10 m).length := Nat.length_toDigits_pos
  have digits (l : Nat) (some : 0 < l) : (Nat.toDigits 10 m).length ≤ l ↔ m < 10 ^ l :=
    Nat.length_toDigits_le_iff (by decide) some
  unfold ofDecimal
  generalize (Nat.toDigits 10 m).length = length at *
  dsimp only
  split
  case isTrue vanishes =>
    have small : 2 * (m * BinaryFormat.double.unitsPerOne) < tenTo k := by
      rw [Bool.or_eq_true, decide_eq_true_eq, decide_eq_true_eq] at vanishes
      rcases vanishes with rfl | tiny
      · simp
      · obtain ⟨zeros, rfl⟩ := Nat.exists_eq_add_of_le (show length ≤ k by omega)
        have exponent : BinaryFormat.double.unitExponent = 1074 := by decide
        calc 2 * (m * BinaryFormat.double.unitsPerOne) = m * 2 ^ (BinaryFormat.double.unitExponent + 1) := by
              rw [BinaryFormat.unitsPerOne, twoTo_eq]
              ring
          _ ≤ m * 10 ^ zeros := Nat.mul_le_mul_left _ (two_pow_le_ten_pow (by omega))
          _ < 10 ^ length * 10 ^ zeros :=
            Nat.mul_lt_mul_of_pos_right ((digits length long).mp le_rfl) (Nat.pow_pos (by decide))
          _ = 10 ^ (length + zeros) := (Nat.pow_add ..).symm
    rw [nearest, nearest, nearestBits_of_lt small, nearestBits_of_lt (by simp)]
  case isFalse =>
    rw [if_neg, if_neg (by omega), Int.natAbs_neg, Int.natAbs_natCast]
    intro huge
    have beyond : ¬m < 10 ^ (20 + k) := by
      rw [← digits _ (by omega)]
      omega
    have word : 2 ^ 64 * 10 ^ k < 10 ^ (20 + k) := by
      rw [Nat.pow_add]
      exact Nat.mul_lt_mul_of_pos_right (by decide) (Nat.pow_pos (by decide))
    omega

/-- A decimal fraction in the range of a word of 64 bits is read as the number nearest to it. -/
theorem isNearest_ofDecimal {m k : Nat} (places : k ≠ 0) (le : m ≤ 2 ^ 64 * 10 ^ k) (negative : Bool) :
    (ofDecimal .double negative m (-k)).IsNearest (if negative then -(m / 10 ^ k : ℚ) else m / 10 ^ k) ∧
      (m < 2 ^ 53 → towardZero (ofDecimal .double negative m (-k)).rational =
        towardZero (if negative then -(m / 10 ^ k : ℚ) else m / 10 ^ k)) := by
  have pos : 0 < tenTo k := Nat.pow_pos (by decide)
  have room : dropped .double m (tenTo k) + 3 < 2 ^ BinaryFormat.double.exponentBits := by
    have most : dropped .double m (tenTo k) ≤ 1086 := dropped_le le
    exact (Nat.add_le_add_right most 3).trans_lt (by decide)
  have number : (10 : ℚ) ^ k = (tenTo k : Nat) := by
    rw [tenTo, Nat.pow_eq]
    push_cast
    rfl
  rw [ofDecimal_places places le, number]
  exact ⟨isNearest_nearest (by decide) (by decide) pos room negative,
    fun short => towardZero_nearest (by decide) pos room short (by decide) (by decide) negative⟩

end Binary

/-! ### Texts with a point -/

namespace Text

variable {s before after : List Char} {c : Char} {x : ℚ} {n : Int}

/-- Digits, and perhaps a point and more digits. -/
inductive SpellsPlaces : List Char → ℚ → Prop
  | whole {digits : List Char} (h : IsDigits digits) : SpellsPlaces digits (Nat.ofDigitChars 10 digits 0)
  | point {before after : List Char} (h : IsDigits before) (h' : IsDigits after) :
      SpellsPlaces (before ++ '.' :: after)
        (Nat.ofDigitChars 10 before 0 + Nat.ofDigitChars 10 after 0 / 10 ^ after.length)

/-- The numerals with or without a point, and with a sign or none before them. -/
inductive SpellsDecimal : List Char → ℚ → Prop
  | unsigned {s : List Char} {x : ℚ} (h : SpellsPlaces s x) : SpellsDecimal s x
  | plus {s : List Char} {x : ℚ} (h : SpellsPlaces s x) : SpellsDecimal ('+' :: s) x
  | minus {s : List Char} {x : ℚ} (h : SpellsPlaces s x) : SpellsDecimal ('-' :: s) (-x)

/-- The digits before and after a point make the numerator of the number. -/
theorem ofDigitChars_places (before after : List Char) :
    (Nat.ofDigitChars 10 before 0 + Nat.ofDigitChars 10 after 0 / 10 ^ after.length : ℚ) =
      Nat.ofDigitChars 10 (before ++ after) 0 / 10 ^ after.length := by
  have shifted : Nat.ofDigitChars 10 after (Nat.ofDigitChars 10 before 0) =
      10 ^ after.length * Nat.ofDigitChars 10 before 0 + Nat.ofDigitChars 10 after 0 :=
    Nat.ofDigitChars_eq_ofDigitChars_zero
  rw [Nat.ofDigitChars_append, shifted]
  push_cast
  field_simp

theorem ofDigitChars_lt (digits : ∀ c ∈ s, c.isDigit = true) : Nat.ofDigitChars 10 s 0 < 10 ^ s.length := by
  induction s with
  | nil => decide
  | cons c rest ih =>
    obtain ⟨digit, digits⟩ := List.forall_mem_cons.mp digits
    have value : c.toNat - '0'.toNat < 10 :=
      of_isDigit (P := fun c => c.toNat - '0'.toNat < 10) (by decide) digit
    have small := ih digits
    rw [Nat.ofDigitChars_cons, Nat.ofDigitChars_eq_ofDigitChars_zero, List.length_cons, Nat.pow_succ]
    generalize c.toNat - '0'.toNat = d at *
    have head : 10 ^ rest.length * (10 * 0 + d) ≤ 10 ^ rest.length * 9 := Nat.mul_le_mul_left _ (by omega)
    omega

theorem splitSign_suffix (s : List Char) : (Binary.splitSign s).2 <:+ s := by
  unfold Binary.splitSign
  split
  · exact List.suffix_cons ..
  · exact List.suffix_cons ..
  · exact List.suffix_rfl

/-- A numeral has no point and is that of an integer, or has one between digits. -/
theorem SpellsDecimal.forms (h : SpellsDecimal s x) :
    (∃ n : Int, Spells s n ∧ x = n) ∨
      ∃ negative before after, Binary.splitSign s = (negative, before ++ '.' :: after) ∧
        IsDigits before ∧ IsDigits after ∧
        x = if negative then -(Nat.ofDigitChars 10 (before ++ after) 0 / 10 ^ after.length : ℚ)
          else Nat.ofDigitChars 10 (before ++ after) 0 / 10 ^ after.length := by
  cases h with
  | unsigned h =>
    cases h with
    | whole h => exact .inl ⟨_, .unsigned h, rfl⟩
    | point h h' => exact .inr ⟨false, _, _, splitSign_append h _, h, h', ofDigitChars_places ..⟩
  | plus h =>
    cases h with
    | whole h => exact .inl ⟨_, .plus h, rfl⟩
    | point h h' => exact .inr ⟨false, _, _, rfl, h, h', ofDigitChars_places ..⟩
  | minus h =>
    cases h with
    | whole h => exact .inl ⟨_, .minus h, by push_cast; rfl⟩
    | point h h' => exact .inr ⟨true, _, _, rfl, h, h', congrArg Neg.neg (ofDigitChars_places ..)⟩

theorem Spells.no_point (h : Spells s n) : '.' ∉ s := by
  intro mem
  obtain digit | same | same := h.mem_cases mem
  · cases digit
  · exact absurd same (by decide)
  · exact absurd same (by decide)

theorem readFixed?_point (h : IsDigits before) (h' : IsDigits after) :
    Binary.readFixed? (before ++ '.' :: after) = some (before ++ after, after.length) := by
  have all : after.all Char.isDigit = true := List.all_eq_true.mpr h'.2
  have ne : after.isEmpty = false := List.isEmpty_eq_false_iff.mpr h'.1
  unfold Binary.readFixed?
  rw [List.takeWhile_append_of_pos h.2, List.dropWhile_append_of_pos h.2]
  simp [all, ne]

/-- A text with a point between digits is read as a decimal fraction. -/
theorem ofText?_point {f : BinaryFormat} {t : String} {negative : Bool} (h : IsDigits before)
    (h' : IsDigits after) (split : Binary.splitSign t.toList = (negative, before ++ '.' :: after)) :
    Binary.ofText? f t =
      some (.ofDecimal f negative (Nat.ofDigitChars 10 (before ++ after) 0) (-after.length)) := by
  have among : ∀ c ∈ before ++ '.' :: after, c.isDigit = true ∨ c = '.' := by
    intro c mem
    rw [List.mem_append, List.mem_cons] at mem
    exact mem.elim (.inl ∘ h.2 c) (Or.elim · .inr (.inl ∘ h'.2 c))
  have read := readFixed?_point h h'
  have point : '.' ∈ before ++ '.' :: after := by simp
  generalize before ++ '.' :: after = body at *
  have lower : body.map Char.toLower = body := by
    refine (List.map_congr_left fun c mem => ?_).trans (List.map_id body)
    rcases among c mem with digit | rfl
    · exact of_isDigit (P := fun c => c.toLower = c) (by decide) digit
    · rfl
  have mark : 'e' ∉ body := by
    intro mem
    rcases among 'e' mem with digit | same
    · cases digit
    · exact absurd same (by decide)
  have word {w : List Char} (absent : '.' ∉ w) : (body == w) = false :=
    beq_false_of_ne fun same => absent (same ▸ point)
  unfold Binary.ofText?
  rw [split]
  dsimp only
  rw [lower, word (by decide), word (by decide), word (by decide), splitOnce_eq_none mark, read]
  rfl

theorem mem_trimChars_iff (solid : isBlankChar c = false) : c ∈ trimChars s ↔ c ∈ s := by
  obtain ⟨front, back, parts, blank, blank'⟩ := exists_trimChars s
  have absent {ends : List Char} (blank : ∀ c ∈ ends, isBlankChar c = true) : c ∉ ends := by
    intro mem
    rw [blank c mem] at solid
    cases solid
  conv_rhs => rw [parts]
  simp [absent blank, absent blank']

theorem countP_trimChars_le (p : Char → Bool) (s : List Char) : (trimChars s).countP p ≤ s.countP p := by
  obtain ⟨front, back, parts, -, -⟩ := exists_trimChars s
  conv_rhs => rw [parts]
  rw [List.countP_append, List.countP_append]
  omega

end Text

/-! ### Forced integers -/

namespace Value

variable {s : String} {x : ℚ} {n : Int}

theorem toForcedInteger?_of_spells (spelled : Text.Spells (Text.trimChars s.toList) n)
    (lo : IntegerKind.i64.lo ≤ n) (hi : n ≤ IntegerKind.i64.hi) :
    (str s).toForcedInteger? = some ⟨.i64, n, lo, hi⟩ := by
  have read : readInteger? (Text.trimChars s.toList) = some ⟨.i64, n, lo, hi⟩ :=
    Text.readInteger?_eq_some_iff.mpr ⟨rfl, spelled⟩
  rw [toForcedInteger?, read, Option.some_or]

theorem readInteger?_of_point {t : List Char} (point : '.' ∈ t) : readInteger? t = none := by
  rw [Option.eq_none_iff_forall_ne_some]
  intro n read
  exact (Text.readInteger?_eq_some_iff.mp read).2.no_point point

/-- The numerator of a number whose integer part is in range. -/
theorem le_of_towardZero {negative : Bool} {m k : Nat}
    (lo : IntegerKind.i64.lo ≤ towardZero (if negative then -(m / 10 ^ k : ℚ) else m / 10 ^ k))
    (hi : towardZero (if negative then -(m / 10 ^ k : ℚ) else m / 10 ^ k) ≤ IntegerKind.i64.hi) :
    m ≤ 2 ^ 64 * 10 ^ k := by
  rw [towardZero_places] at lo hi
  have whole : m / 10 ^ k < 2 ^ 64 := by
    generalize m / 10 ^ k = q at lo hi ⊢
    cases negative with
    | false =>
      have below : (q : Int) ≤ 9223372036854775807 := hi
      omega
    | true =>
      have above : -9223372036854775808 ≤ -(q : Int) := lo
      omega
  exact ((Nat.div_lt_iff_lt_mul (Nat.pow_pos (by decide))).mp whole).le

/-- A numeral with a point stands for the integer part of the nearest double-precision number. -/
theorem toForcedInteger?_of_point (spelled : Text.SpellsDecimal (Text.trimChars s.toList) x)
    (lo : IntegerKind.i64.lo ≤ towardZero x) (hi : towardZero x ≤ IntegerKind.i64.hi)
    (point : '.' ∈ s.toList) :
    ∃ r : Double, r.IsNearest x ∧ (str s).toForcedInteger? = Integer.ofInt? .i64 (towardZero r.rational) ∧
      (s.toList.countP Char.isDigit ≤ 15 → towardZero r.rational = towardZero x) := by
  have inside : '.' ∈ Text.trimChars s.toList := (Text.mem_trimChars_iff (by decide)).mpr point
  rcases spelled.forms with ⟨n, whole, -⟩ | ⟨negative, before, after, split, h, h', rfl⟩
  · exact absurd inside whole.no_point
  have places : after.length ≠ 0 := List.length_pos_iff.mpr h'.1 |>.ne'
  obtain ⟨nearest, exact⟩ := Binary.isNearest_ofDecimal places (le_of_towardZero lo hi) negative
  refine ⟨_, nearest, ?_, fun few => exact ?_⟩
  · have text : (Text.trim s).toList = Text.trimChars s.toList := String.toList_ofList
    rw [toForcedInteger?, readInteger?_of_point inside, Option.none_or,
      Text.ofText?_point h h' (by rw [text, split]), Option.bind_some, truncateDouble?,
      Binary.truncated?_eq (by decide) nearest.finite, Option.bind_some]
  · have digits : (before ++ after).length ≤ 15 := by
      have inBody : _ ≤ (Text.trimChars s.toList).countP Char.isDigit :=
        (Text.splitSign_suffix (Text.trimChars s.toList)).sublist.countP_le
      have inText := Text.countP_trimChars_le Char.isDigit s.toList
      have all {ds : List Char} (h : Text.IsDigits ds) : ds.countP Char.isDigit = ds.length :=
        List.countP_eq_length.mpr h.2
      rw [split, List.countP_append, List.countP_cons, all h, all h'] at inBody
      rw [List.length_append]
      omega
    have both : ∀ c ∈ before ++ after, c.isDigit = true :=
      fun c mem => (List.mem_append.mp mem).elim (h.2 c) (h'.2 c)
    calc Nat.ofDigitChars 10 (before ++ after) 0 < 10 ^ (before ++ after).length := Text.ofDigitChars_lt both
      _ ≤ 10 ^ 15 := Nat.pow_le_pow_right (by decide) digits
      _ < 2 ^ 53 := by decide

/-- A numeral whose integer part is in range and a decimal of the same number have that integer part under
the forced integer type, if the numeral has no point or fifteen digits at most. With a point and more digits
it has the integer part of the double-precision number nearest to it, which is refused if out of range. -/
theorem coerce_forceInteger_str (spelled : Text.SpellsDecimal (Text.trimChars s.toList) x)
    (lo : IntegerKind.i64.lo ≤ towardZero x) (hi : towardZero x ≤ IntegerKind.i64.hi) :
    ('.' ∉ s.toList ∨ s.toList.countP Char.isDigit ≤ 15 →
        (str s).coerce .forceInteger = .ok (int ⟨.i64, towardZero x, lo, hi⟩)) ∧
      ('.' ∈ s.toList → ∃ r : Double, r.IsNearest x ∧
        (str s).coerce .forceInteger =
          match Integer.ofInt? .i64 (towardZero r.rational) with
          | some n => .ok (int n)
          | none => .error ⟨str s, .forceInteger⟩) ∧
      ∀ d : Decimal, d.rational = x →
        (decimal d).coerce .forceInteger = .ok (int ⟨.i64, towardZero x, lo, hi⟩) := by
  have fits : Integer.ofInt? .i64 (towardZero x) = some ⟨.i64, towardZero x, lo, hi⟩ := dif_pos ⟨lo, hi⟩
  refine ⟨fun short => ?_, fun point => ?_, ?_⟩
  · have taken : (str s).toForcedInteger? = some ⟨.i64, towardZero x, lo, hi⟩ := by
      by_cases point : '.' ∈ s.toList
      · obtain ⟨r, -, taken, exact⟩ := toForcedInteger?_of_point spelled lo hi point
        rw [taken, exact (short.resolve_left (not_not_intro point)), fits]
      · have outside : '.' ∉ Text.trimChars s.toList := mt (Text.mem_trimChars_iff (by decide)).mp point
        rcases spelled.forms with ⟨n, whole, rfl⟩ | ⟨negative, before, after, split, -⟩
        · simp only [towardZero_intCast] at lo hi ⊢
          exact toForcedInteger?_of_spells whole lo hi
        · refine absurd ((Text.splitSign_suffix _).subset ?_) outside
          rw [split]
          exact List.mem_append_right _ List.mem_cons_self
    rw [coerce_of_isLeaf rfl, convert?, taken]
    rfl
  · obtain ⟨r, nearest, taken, -⟩ := toForcedInteger?_of_point spelled lo hi point
    refine ⟨r, nearest, ?_⟩
    rw [coerce_of_isLeaf rfl, convert?, taken]
    cases Integer.ofInt? .i64 (towardZero r.rational) <;> rfl
  · rintro d rfl
    rw [coerce_of_isLeaf rfl, convert?, toForcedInteger?, d.truncated_eq, fits]
    rfl

/-- A negative numeral between blanks, and the decimal equal to it. -/
theorem coerce_forceInteger_str_negative :
    (str " -7.9 ").coerce .forceInteger = .ok (int ⟨.i64, -7, by decide, by decide⟩) ∧
      (decimal ⟨true, 79, 1, by decide, by decide⟩).coerce .forceInteger =
        .ok (int ⟨.i64, -7, by decide, by decide⟩) := by
  have digit {d : Char} (h : d.isDigit = true) : Text.IsDigits [d] := ⟨List.cons_ne_nil _ _, by simpa using h⟩
  have trimmed : Text.trimChars " -7.9 ".toList = '-' :: (['7'] ++ '.' :: ['9']) := by decide
  have spelled : Text.SpellsDecimal (Text.trimChars " -7.9 ".toList) (-((7 : Nat) + (9 : Nat) / 10 ^ 1)) := by
    rw [trimmed]
    exact .minus (.point (digit rfl) (digit rfl))
  have whole : towardZero (-((7 : Nat) + (9 : Nat) / 10 ^ 1)) = -7 := by
    have number : (-((7 : Nat) + (9 : Nat) / 10 ^ 1) : ℚ) = (-79 : Int) / (10 : Nat) := by norm_num
    rw [number, towardZero_div _ (by decide)]
    decide
  obtain ⟨short, -, decimals⟩ := coerce_forceInteger_str spelled (by rw [whole]; decide) (by rw [whole]; decide)
  simp only [whole] at short decimals
  refine ⟨short (.inr (by decide)), decimals _ ?_⟩
  norm_num [Decimal.rational, Decimal.numerator]

/-- A numeral below one that is rounded to one, and one in range that is rounded out of it. -/
theorem coerce_forceInteger_rounded :
    (∃ x : ℚ, Text.SpellsDecimal (Text.trimChars "0.99999999999999999".toList) x ∧ towardZero x = 0 ∧
        (str "0.99999999999999999").coerce .forceInteger = .ok (int ⟨.i64, 1, by decide, by decide⟩)) ∧
      ∃ x : ℚ, Text.SpellsDecimal (Text.trimChars "9223372036854775807.5".toList) x ∧
        towardZero x = IntegerKind.i64.hi ∧
        (str "9223372036854775807.5").coerce .forceInteger = .error ⟨str "9223372036854775807.5", .forceInteger⟩ := by
  have digits {ds : List Char} (some : ds ≠ []) (all : ds.all Char.isDigit = true) : Text.IsDigits ds :=
    ⟨some, List.all_eq_true.mp all⟩
  have up : (str "0.99999999999999999").toForcedInteger? = some ⟨.i64, 1, by decide, by decide⟩ := by
    decide +kernel
  have out : (str "9223372036854775807.5").toForcedInteger? = none := by
    decide +kernel
  have first : Text.trimChars "0.99999999999999999".toList = ['0'] ++ '.' :: List.replicate 17 '9' := by
    decide +kernel
  have second : Text.trimChars "9223372036854775807.5".toList = "9223372036854775807".toList ++ '.' :: ['5'] := by
    decide +kernel
  rw [first, second]
  refine ⟨⟨_, .unsigned (.point (digits (by decide) (by decide)) (digits (by decide) (by decide))), ?_, ?_⟩,
    ⟨_, .unsigned (.point (digits (by decide) (by decide)) (digits (by decide) (by decide))), ?_, ?_⟩⟩
  · rw [Text.ofDigitChars_places]
    exact towardZero_places false _ _
  · rw [coerce_of_isLeaf rfl, convert?, up]
    rfl
  · rw [Text.ofDigitChars_places]
    exact towardZero_places false _ _
  · rw [coerce_of_isLeaf rfl, convert?, out]
    rfl

end Value

end ContentQuery
