import ContentQuery.Number.Binary
import Mathlib.Algebra.Order.Ring.Rat
import Mathlib.Data.Rat.Cast.Order
import Mathlib.Tactic.FieldSimp
import Mathlib.Tactic.Ring

/-!
# Exact binary numbers

The number that a word of an interchange format stands for, as a fraction. Rounding does not change a
number that the format has, so the wider format keeps every number of the narrower one.
-/

namespace ContentQuery

theorem twoTo_eq (n : Nat) : twoTo n = 2 ^ n :=
  rfl

namespace BinaryFormat

/-- The excess of the exponent field over the exponent. -/
def bias (f : BinaryFormat) : Int :=
  2 ^ (f.exponentBits - 1) - 1

/-- A significand and an exponent, in units, that are those of a finite number. -/
structure Holds (f : BinaryFormat) (significand scale : Nat) : Prop where
  fits : significand < 2 ^ (f.fractionBits + 1)
  normal : scale = 0 ∨ 2 ^ f.fractionBits ≤ significand
  inRange : scale + 2 < 2 ^ f.exponentBits

variable {f : BinaryFormat} {significand scale : Nat}

theorem infinityBits_lt (f : BinaryFormat) : f.infinityBits < 2 ^ (f.exponentBits + f.fractionBits) := by
  rw [infinityBits, Nat.pow_add]
  exact Nat.mul_lt_mul_of_pos_right (Nat.sub_one_lt (Nat.two_pow_pos _).ne') (Nat.two_pow_pos _)

theorem Holds.lt_infinityBits (h : f.Holds significand scale) :
    scale * 2 ^ f.fractionBits + significand < f.infinityBits := by
  have fits := h.fits
  rw [Nat.pow_succ] at fits
  calc scale * 2 ^ f.fractionBits + significand < (scale + 2) * 2 ^ f.fractionBits := by
        rw [Nat.add_mul]
        omega
    _ ≤ (2 ^ f.exponentBits - 1) * 2 ^ f.fractionBits :=
        Nat.mul_le_mul_right _ (Nat.le_sub_one_of_lt h.inRange)

end BinaryFormat

/-- What is a multiple of the divisor is divided without rounding. -/
theorem divNearestEven_mul (q : Nat) {d : Nat} (pos : 0 < d) : divNearestEven (q * d) d = q := by
  unfold divNearestEven
  simp [Nat.mul_div_cancel q pos, pos]

namespace Binary

variable {f : BinaryFormat} {x : Binary f} {bits significand scale : Nat} {negative : Bool}

/-! ### Words -/

section

variable (h : bits < 2 ^ (f.exponentBits + f.fractionBits))
include h

theorem toNat_ofMagnitudeBits : (ofMagnitudeBits f negative bits).bits.toNat =
    (if negative then 2 ^ (f.exponentBits + f.fractionBits) else 0) + bits := by
  unfold ofMagnitudeBits
  simp only [twoTo_eq, BitVec.toNat_ofNat]
  refine Nat.mod_eq_of_lt ?_
  rw [BinaryFormat.width, Nat.pow_succ]
  split <;> omega

theorem magnitudeBits_ofMagnitudeBits : (ofMagnitudeBits f negative bits).magnitudeBits = bits := by
  rw [magnitudeBits, toNat_ofMagnitudeBits h]
  simp only [twoTo_eq]
  cases negative <;> simp [Nat.mod_eq_of_lt h]

theorem negative_ofMagnitudeBits : (ofMagnitudeBits f negative bits).negative = negative := by
  rw [Binary.negative, BitVec.msb_eq_decide, toNat_ofMagnitudeBits h]
  cases negative <;> simp [BinaryFormat.width, h]

end

theorem fields_of_magnitudeBits {e r : Nat} (h : x.magnitudeBits = e * 2 ^ f.fractionBits + r)
    (rest : r < 2 ^ f.fractionBits) : x.exponentField = e ∧ x.fractionField = r := by
  have pos : 0 < 2 ^ f.fractionBits := Nat.two_pow_pos _
  rw [exponentField, fractionField, h, twoTo_eq, Nat.add_comm, Nat.add_mul_div_right _ _ pos,
    Nat.add_mul_mod_self_right, Nat.div_eq_of_lt rest, Nat.mod_eq_of_lt rest, Nat.zero_add]
  exact ⟨rfl, rfl⟩

theorem isFinite_iff : x.isFinite = true ↔ x.exponentField + 1 < 2 ^ f.exponentBits := by
  rw [isFinite, decide_eq_true_eq, BinaryFormat.infinityBits, exponentField, twoTo_eq, twoTo_eq,
    ← Nat.div_lt_iff_lt_mul (Nat.two_pow_pos _), Nat.lt_sub_iff_add_lt]

theorem datum_eq_finite_iff {u : Nat} :
    x.datum = .finite negative u ↔ x.isFinite = true ∧ x.negative = negative ∧ x.units = u := by
  unfold datum
  split
  case isTrue finite => simp [finite]
  case isFalse beyond =>
    simp only [beyond, Bool.false_eq_true, false_and, iff_false]
    split <;> exact BinaryDatum.noConfusion

/-- The exponent field counts one more than the scale if the significand has its leading bit. -/
theorem datum_ofMagnitudeBits (h : f.Holds significand scale) :
    (ofMagnitudeBits f negative (scale * 2 ^ f.fractionBits + significand)).datum =
      .finite negative (significand * 2 ^ scale) := by
  have below := h.lt_infinityBits.trans f.infinityBits_lt
  obtain ⟨fits, normal, inRange⟩ := h
  rw [Nat.pow_succ] at fits
  have word : (ofMagnitudeBits f negative _).magnitudeBits = _ := magnitudeBits_ofMagnitudeBits below
  have sign : (ofMagnitudeBits f negative _).negative = _ := negative_ofMagnitudeBits below
  generalize ofMagnitudeBits f negative _ = x at *
  -- The leading bit of the significand is not stored: it is carried into the exponent field.
  rcases Nat.lt_or_ge significand (2 ^ f.fractionBits) with short | leading
  · obtain rfl : scale = 0 := normal.resolve_right (Nat.not_le.mpr short)
    obtain ⟨exponent, fraction⟩ := fields_of_magnitudeBits word short
    rw [datum, if_pos (isFinite_iff.mpr (by omega)), sign, units, Binary.scale, Binary.significand,
      if_pos exponent, exponent, fraction]
    rfl
  · obtain ⟨rest, rfl⟩ := Nat.exists_eq_add_of_le leading
    obtain ⟨exponent, fraction⟩ := fields_of_magnitudeBits (e := scale + 1) (r := rest)
      (by rw [word, Nat.add_mul, Nat.one_mul, Nat.add_assoc]) (by omega)
    rw [datum, if_pos (isFinite_iff.mpr (by omega)), sign, units, Binary.scale, Binary.significand,
      if_neg (by omega), exponent, fraction, Nat.add_sub_cancel]
    rfl

theorem significand_lt (x : Binary f) : x.significand < 2 ^ (f.fractionBits + 1) := by
  have rest : x.fractionField < 2 ^ f.fractionBits := Nat.mod_lt _ (Nat.two_pow_pos _)
  rw [significand, twoTo_eq, Nat.pow_succ]
  split <;> omega

end Binary

/-! ### Rounding -/

/-- Bits beyond those that a significand has room for can be dropped if they are zero. -/
theorem BinaryFormat.exists_holds {f : BinaryFormat} {m p : Nat} (fits : m < 2 ^ (f.fractionBits + 1))
    (inRange : p + 2 < 2 ^ f.exponentBits) :
    ∃ q, f.Holds q ((m * 2 ^ p).log2 - f.fractionBits) ∧
      q * 2 ^ ((m * 2 ^ p).log2 - f.fractionBits) = m * 2 ^ p := by
  have above : m * 2 ^ p < 2 ^ (f.fractionBits + 1 + p) := by
    rw [Nat.pow_add]
    exact Nat.mul_lt_mul_of_pos_right fits (Nat.two_pow_pos p)
  have multiple {k : Nat} (le : k ≤ p) : 2 ^ k ∣ m * 2 ^ p := (Nat.pow_dvd_pow 2 le).mul_left m
  generalize m * 2 ^ p = u at *
  have high : u < 2 ^ (u.log2 + 1) := Nat.lt_log2_self
  -- What a long number loses lies within the factor `2 ^ p`, as its other factor fits the significand.
  rcases Nat.lt_or_ge f.fractionBits u.log2 with large | small
  · have low : 2 ^ u.log2 ≤ u := Nat.log2_self_le (by rintro rfl; exact Nat.not_lt_zero _ large)
    have len : u.log2 < f.fractionBits + 1 + p :=
      (Nat.pow_lt_pow_iff_right (by decide)).mp (low.trans_lt above)
    obtain ⟨dropped, eq⟩ := Nat.exists_eq_add_of_le large.le
    rw [eq] at low high ⊢
    rw [Nat.add_sub_cancel_left]
    obtain ⟨q, rfl⟩ := multiple (k := dropped) (by omega)
    refine ⟨q, ⟨?_, .inr ?_, by omega⟩, Nat.mul_comm ..⟩
    · refine Nat.lt_of_mul_lt_mul_left (a := 2 ^ dropped) ?_
      rwa [← Nat.pow_add, Nat.add_comm dropped, Nat.add_right_comm]
    · refine Nat.le_of_mul_le_mul_left (c := 2 ^ dropped) ?_ (Nat.two_pow_pos _)
      rwa [← Nat.pow_add, Nat.add_comm dropped]
  · rw [Nat.sub_eq_zero_of_le small]
    refine ⟨u, ⟨high.trans_le (Nat.pow_le_pow_right (by decide) (by omega)), .inl rfl, by omega⟩, ?_⟩
    rw [Nat.pow_zero, Nat.mul_one]

namespace Binary

variable {f : BinaryFormat} {x : Binary f} {negative : Bool} {m p num den : Nat}

/-- A number that the format has is not rounded. -/
theorem datum_nearest (fits : m < 2 ^ (f.fractionBits + 1)) (inRange : p + 2 < 2 ^ f.exponentBits)
    (pos : 0 < den) (same : num * f.unitsPerOne = m * 2 ^ p * den) :
    (nearest f negative num den).datum = .finite negative (m * 2 ^ p) := by
  obtain ⟨q, holds, eq⟩ := f.exists_holds fits inRange
  have bits : nearestBits f num den =
      ((m * 2 ^ p).log2 - f.fractionBits) * 2 ^ f.fractionBits + q := by
    unfold nearestBits
    simp only [twoTo_eq, same, Nat.mul_div_cancel _ pos]
    generalize (m * 2 ^ p).log2 - f.fractionBits = dropped at *
    rw [← eq, Nat.mul_assoc, Nat.mul_comm _ den,
      divNearestEven_mul q (Nat.mul_pos pos (Nat.two_pow_pos _)), Nat.min_eq_left holds.lt_infinityBits.le]
  rw [nearest, bits, datum_ofMagnitudeBits holds, eq]

/-! ### The number of a word -/

/-- The number that a finite word stands for. -/
def rational (x : Binary f) : ℚ :=
  let fraction : ℚ := x.fractionField / 2 ^ f.fractionBits
  let magnitude : ℚ :=
    if x.exponentField = 0 then fraction * 2 ^ (1 - f.bias)
    else (1 + fraction) * 2 ^ (x.exponentField - f.bias)
  if x.negative then -magnitude else magnitude

/-- The finite number in units. -/
def numerator (x : Binary f) : Int :=
  if x.negative then -(x.units : Int) else x.units

theorem rational_eq (wide : 2 ≤ f.exponentBits) (x : Binary f) :
    x.rational = x.numerator / f.unitsPerOne := by
  obtain ⟨k, exponents⟩ : ∃ k, 2 ^ (f.exponentBits - 1) = k + 2 :=
    Nat.exists_eq_add_of_le' (Nat.le_self_pow (by omega) 2)
  have bias : f.bias = k + 1 := by
    have : (2 : Int) ^ (f.exponentBits - 1) = k + 2 := by exact_mod_cast exponents
    rw [BinaryFormat.bias, this]
    ring
  have units : (f.unitsPerOne : ℚ) = 2 ^ k * 2 ^ f.fractionBits := by
    rw [BinaryFormat.unitsPerOne, BinaryFormat.unitExponent, twoTo_eq, twoTo_eq, exponents,
      Nat.add_sub_cancel]
    push_cast
    exact pow_add ..
  have magnitude : (if x.exponentField = 0 then
        (x.fractionField / 2 ^ f.fractionBits : ℚ) * 2 ^ (1 - f.bias)
      else (1 + x.fractionField / 2 ^ f.fractionBits) * 2 ^ (x.exponentField - f.bias)) =
        x.units / f.unitsPerOne := by
    rw [bias, units, Binary.units, significand, scale, twoTo_eq, twoTo_eq]
    split
    case isTrue zero =>
      rw [zero, show (1 : Int) - (k + 1) = -(k : Int) by ring, zpow_neg, zpow_natCast]
      field_simp
      simp
    case isFalse normal =>
      obtain ⟨e, exponent⟩ := Nat.exists_eq_succ_of_ne_zero normal
      rw [exponent, Nat.succ_sub_one, show ((e + 1 : Nat) : Int) - (k + 1) = (e : Int) - k by push_cast; ring,
        zpow_sub₀ (by norm_num), zpow_natCast, zpow_natCast]
      push_cast
      field_simp
  unfold rational numerator
  simp only [magnitude]
  split <;> push_cast <;> ring

end Binary

/-! ### The wider format -/

namespace Single

variable {x : Single}

/-- A unit of the narrower format is `2 ^ unitShift` units of the wider one. -/
def unitShift : Nat :=
  BinaryFormat.double.unitExponent - BinaryFormat.single.unitExponent

theorem unitShift_eq : unitShift = 925 := by
  decide

theorem unitsPerOne_double :
    BinaryFormat.double.unitsPerOne = 2 ^ unitShift * BinaryFormat.single.unitsPerOne := by
  have exponents : BinaryFormat.double.unitExponent = unitShift + BinaryFormat.single.unitExponent := by
    decide
  rw [BinaryFormat.unitsPerOne, BinaryFormat.unitsPerOne, exponents, twoTo_eq, twoTo_eq, Nat.pow_add]

theorem widened_of_isFinite (h : x.isFinite = true) :
    x.widened.isFinite = true ∧ x.widened.negative = x.negative ∧
      x.widened.units = x.units * 2 ^ unitShift := by
  have inRange : x.exponentField + 1 < 2 ^ 8 := Binary.isFinite_iff.mp h
  have finite : x.datum = .finite x.negative x.units := Binary.datum_eq_finite_iff.mpr ⟨h, rfl, rfl⟩
  have units : x.units * 2 ^ unitShift = x.significand * 2 ^ (x.scale + unitShift) := by
    rw [Binary.units, twoTo_eq, Nat.mul_assoc, ← Nat.pow_add]
  rw [← Binary.datum_eq_finite_iff, widened, finite, units]
  refine Binary.datum_nearest (x.significand_lt.trans (by decide)) ?_ (Nat.two_pow_pos _) ?_
  · show x.exponentField - 1 + unitShift + 2 < 2 ^ 11
    rw [unitShift_eq]
    omega
  · rw [← units, unitsPerOne_double, Nat.mul_assoc]

theorem isFinite_widened (x : Single) : x.widened.isFinite = x.isFinite := by
  cases h : x.isFinite with
  | true => exact (widened_of_isFinite h).1
  | false =>
    have beyond {bits : Nat} (le : BinaryFormat.double.infinityBits ≤ bits) (lt : bits < 2 ^ (11 + 52))
        (negative : Bool) : (Binary.ofMagnitudeBits .double negative bits).isFinite = false := by
      rw [Binary.isFinite, Binary.magnitudeBits_ofMagnitudeBits lt]
      exact decide_eq_false (Nat.not_lt.mpr le)
    unfold widened
    split
    case h_1 found =>
      have finite := (Binary.datum_eq_finite_iff.mp found).1
      rw [h] at finite
      cases finite
    case h_2 => exact beyond le_rfl (BinaryFormat.infinityBits_lt _) _
    case h_3 =>
      refine beyond ?_ ?_ _
      · exact Nat.left_le_or.trans Nat.left_le_or
      · have field : x.fractionField < 2 ^ 23 := Nat.mod_lt _ (Nat.two_pow_pos _)
        have shifted : x.fractionField <<< 29 < 2 ^ 63 := by
          rw [Nat.shiftLeft_eq]
          omega
        exact Nat.or_lt_two_pow (Nat.or_lt_two_pow (BinaryFormat.infinityBits_lt _) (by decide)) shifted

/-- The wider format keeps the number. -/
theorem rational_widened (h : x.isFinite = true) : x.widened.rational = x.rational := by
  obtain ⟨-, sign, units⟩ := widened_of_isFinite h
  have numerator : x.widened.numerator = x.numerator * 2 ^ unitShift := by
    unfold Binary.numerator
    rw [sign, units]
    split <;> push_cast <;> ring
  rw [Binary.rational_eq (by decide), Binary.rational_eq (by decide), numerator, unitsPerOne_double]
  push_cast
  rw [mul_comm ((2 : ℚ) ^ unitShift), mul_div_mul_right _ _ (pow_ne_zero _ two_ne_zero)]

end Single

end ContentQuery
