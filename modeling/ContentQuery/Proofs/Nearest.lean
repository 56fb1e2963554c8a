import ContentQuery.Proofs.Rounding
import Mathlib.Algebra.Order.Field.Basic
import Mathlib.Algebra.Order.Ring.Abs
import Mathlib.Tactic.Linarith

/-!
# Nearest numbers

Rounding a fraction gives the number of the format that is nearest to it, and of two that are as near the one
whose last bit is zero.
-/

namespace ContentQuery

/-! ### Nearest quotients -/

section

variable {a d : Nat}

theorem divNearestEven_bounds (a d : Nat) : a / d ≤ divNearestEven a d ∧ divNearestEven a d ≤ a / d + 1 := by
  unfold divNearestEven
  dsimp only
  split
  · omega
  · split <;> omega

/-- The quotient is off by half a divisor at most, and by no less only if it is even. -/
theorem divNearestEven_half (pos : 0 < d) :
    2 * |(divNearestEven a d * d - a : Int)| ≤ d ∧
      (2 * |(divNearestEven a d * d - a : Int)| = d → divNearestEven a d % 2 = 0) := by
  have parts : (d : Int) * (a / d : Nat) + (a % d : Nat) = a := by exact_mod_cast Nat.div_add_mod a d
  have rest : a % d < d := Nat.mod_lt a pos
  unfold divNearestEven
  dsimp only
  generalize a / d = k at *
  generalize a % d = r at *
  have below : (k : Int) * d - a = -r := by linarith
  have above : ((k + 1 : Nat) : Int) * d - a = d - r := by
    push_cast
    linarith
  split
  case isTrue less =>
    rw [below, abs_neg, Nat.abs_cast]
    omega
  case isFalse notLess =>
    split
    case isTrue more =>
      rw [above, abs_of_nonneg (by omega)]
      omega
    case isFalse tie =>
      rcases Nat.mod_two_eq_zero_or_one k with even | odd
      · rw [even, Nat.add_zero, below, abs_neg, Nat.abs_cast]
        omega
      · rw [odd, above, abs_of_nonneg (by omega)]
        omega

end

/-- Other multiples are no nearer than one that is off by half a step at most. -/
theorem abs_sub_le_of_multiple {x step : ℚ} {q w : Int} (half : 2 * |q * step - x| ≤ step) (ne : w ≠ q) :
    |q * step - x| ≤ |w * step - x| ∧ (|w * step - x| = |q * step - x| → 2 * |q * step - x| = step) := by
  have positive : 0 ≤ step := le_trans (by positivity) half
  have apart : (1 : ℚ) ≤ |((w - q : Int) : ℚ)| := by
    exact_mod_cast Int.one_le_abs (sub_ne_zero.mpr ne)
  have steps : step ≤ |w * step - q * step| := by
    rw [← sub_mul, abs_mul, abs_of_nonneg positive]
    push_cast at apart
    nlinarith
  have between : |w * step - q * step| ≤ |w * step - x| + |q * step - x| := by
    rw [abs_sub_comm (q * step) x]
    exact abs_sub_le _ _ _
  exact ⟨by linarith, fun same => by linarith⟩

namespace Binary

variable {f : BinaryFormat} {x : ℚ} {num den : Nat}

/-- No finite number is nearer than the word, and if another one is as near, its last bit is zero. -/
structure IsNearest (r : Binary f) (x : ℚ) : Prop where
  finite : r.isFinite = true
  nearest : ∀ y : Binary f, y.isFinite = true → |r.rational - x| ≤ |y.rational - x|
  even : ∀ y : Binary f, y.isFinite = true → y.rational ≠ r.rational →
    |y.rational - x| = |r.rational - x| → r.magnitudeBits % 2 = 0

/-! ### The word that rounding makes -/

/-- The bits that the significand of the fraction has no room for. -/
def dropped (f : BinaryFormat) (num den : Nat) : Nat :=
  (num * f.unitsPerOne / den).log2 - f.fractionBits

/-- The significand that rounding makes. It may have grown by a bit. -/
def rounded (f : BinaryFormat) (num den : Nat) : Nat :=
  divNearestEven (num * f.unitsPerOne) (den * 2 ^ dropped f num den)

theorem pow_le_of_dropped (some : dropped f num den ≠ 0) :
    2 ^ f.fractionBits * 2 ^ dropped f num den ≤ num * f.unitsPerOne / den := by
  unfold dropped at some ⊢
  generalize num * f.unitsPerOne / den = whole at *
  have long : whole ≠ 0 := by
    rintro rfl
    simp at some
  rw [← Nat.pow_add, Nat.add_sub_cancel' (by omega)]
  exact Nat.log2_self_le long

theorem rounded_bounds (f : BinaryFormat) (num den : Nat) :
    rounded f num den ≤ 2 ^ (f.fractionBits + 1) ∧
      (dropped f num den = 0 ∨ 2 ^ f.fractionBits ≤ rounded f num den) := by
  have quotient : num * f.unitsPerOne / (den * 2 ^ dropped f num den) =
      num * f.unitsPerOne / den / 2 ^ dropped f num den := (Nat.div_div_eq_div_mul ..).symm
  obtain ⟨low, high⟩ := divNearestEven_bounds (num * f.unitsPerOne) (den * 2 ^ dropped f num den)
  rw [← rounded, quotient] at low high
  have pos : 0 < 2 ^ dropped f num den := Nat.two_pow_pos _
  constructor
  · have short : num * f.unitsPerOne / den / 2 ^ dropped f num den < 2 ^ (f.fractionBits + 1) := by
      rw [Nat.div_lt_iff_lt_mul pos, ← Nat.pow_add]
      refine Nat.lt_log2_self.trans_le (Nat.pow_le_pow_right (by decide) ?_)
      unfold dropped
      omega
    omega
  · refine or_iff_not_imp_left.mpr fun some => le_trans ?_ low
    rw [Nat.le_div_iff_mul_le pos]
    exact pow_le_of_dropped some

/-- A significand that has grown by a bit is that of the next exponent. -/
theorem exists_holds_rounded (room : dropped f num den + 3 < 2 ^ f.exponentBits) :
    ∃ significand scale, f.Holds significand scale ∧
      scale * 2 ^ f.fractionBits + significand = dropped f num den * 2 ^ f.fractionBits + rounded f num den ∧
      significand * 2 ^ scale = rounded f num den * 2 ^ dropped f num den := by
  obtain ⟨high, low⟩ := rounded_bounds f num den
  rcases high.lt_or_eq with fits | grown
  · exact ⟨_, _, ⟨fits, low, by omega⟩, rfl, rfl⟩
  · refine ⟨2 ^ f.fractionBits, dropped f num den + 1, ⟨?_, .inr le_rfl, by omega⟩, ?_, ?_⟩
    · exact Nat.pow_lt_pow_right (by decide) (by omega)
    · rw [grown, Nat.pow_succ]
      ring
    · rw [grown, Nat.pow_succ, Nat.pow_succ]
      ring

theorem nearest_word (room : dropped f num den + 3 < 2 ^ f.exponentBits) (negative : Bool) :
    (nearest f negative num den).isFinite = true ∧ (nearest f negative num den).negative = negative ∧
      (nearest f negative num den).units = rounded f num den * 2 ^ dropped f num den ∧
      (nearest f negative num den).magnitudeBits =
        dropped f num den * 2 ^ f.fractionBits + rounded f num den := by
  obtain ⟨significand, scale, holds, bits, units⟩ := exists_holds_rounded room
  have below := holds.lt_infinityBits
  have word : nearestBits f num den = scale * 2 ^ f.fractionBits + significand := by
    rw [bits] at below ⊢
    exact Nat.min_eq_left below.le
  rw [nearest, word, ← bits, ← units]
  have number : (ofMagnitudeBits f negative _).datum = _ := datum_ofMagnitudeBits holds
  obtain ⟨finite, sign, magnitude⟩ := datum_eq_finite_iff.mp number
  exact ⟨finite, sign, magnitude, magnitudeBits_ofMagnitudeBits (below.trans f.infinityBits_lt)⟩

/-! ### Its distance -/

/-- A finite number that is no multiple of what is dropped is less than the fraction. -/
theorem dvd_or_units_lt (y : Binary f) (n : Nat) :
    2 ^ n ∣ y.units ∨ n ≠ 0 ∧ y.units < 2 ^ f.fractionBits * 2 ^ n := by
  have units : y.units = y.significand * 2 ^ y.scale := rfl
  rcases Nat.lt_or_ge y.scale n with small | large
  · right
    refine ⟨by omega, ?_⟩
    calc y.units < 2 ^ (f.fractionBits + 1) * 2 ^ y.scale := by
          rw [units]
          exact Nat.mul_lt_mul_of_pos_right y.significand_lt (Nat.two_pow_pos _)
      _ = 2 ^ f.fractionBits * 2 ^ (y.scale + 1) := by
          rw [Nat.pow_succ, Nat.pow_succ]
          ring
      _ ≤ 2 ^ f.fractionBits * 2 ^ n := Nat.mul_le_mul_left _ (Nat.pow_le_pow_right (by decide) small)
  · left
    rw [units]
    exact (Nat.pow_dvd_pow 2 large).mul_left _

/-- In units, rounding takes away half of the last bit at most, and half of it only if that bit is zero. -/
theorem rounded_half (pos : 0 < den) :
    let x : ℚ := num * f.unitsPerOne / den
    let u : ℚ := rounded f num den * 2 ^ dropped f num den
    2 * |u - x| ≤ 2 ^ dropped f num den ∧
      (2 * |u - x| = 2 ^ dropped f num den → rounded f num den % 2 = 0) := by
  intro x u
  have den_pos : (0 : ℚ) < den := by exact_mod_cast pos
  obtain ⟨half, tie⟩ := divNearestEven_half (a := num * f.unitsPerOne)
    (Nat.mul_pos pos (Nat.two_pow_pos (dropped f num den)))
  rw [← rounded] at half tie
  have distance : 2 * |u - x| * den =
      ((2 * |(rounded f num den * (den * 2 ^ dropped f num den : Nat) - (num * f.unitsPerOne : Nat) : Int)| :
        Int) : ℚ) := by
    have scaled : (u - x) * den =
        rounded f num den * (den * 2 ^ dropped f num den) - num * f.unitsPerOne := by
      simp only [u, x]
      field_simp
    push_cast
    rw [← scaled, abs_mul, abs_of_pos den_pos, mul_assoc]
  have step : (2 : ℚ) ^ dropped f num den * den = ((den * 2 ^ dropped f num den : Nat) : Int) := by
    push_cast
    ring
  constructor
  · refine le_of_mul_le_mul_right ?_ den_pos
    rw [distance, step]
    exact_mod_cast half
  · intro same
    refine tie ?_
    rw [← mul_left_inj' den_pos.ne', distance, step] at same
    exact_mod_cast same

/-- In units, no finite number of either sign is nearer to the fraction. -/
theorem rounded_nearest (pos : 0 < den) (y : Binary f) {v : Int} (magnitude : v.natAbs = y.units) :
    let x : ℚ := num * f.unitsPerOne / den
    let u : ℚ := rounded f num den * 2 ^ dropped f num den
    |u - x| ≤ |v - x| ∧ ((v : ℚ) ≠ u → |v - x| = |u - x| → rounded f num den % 2 = 0) := by
  intro x u
  obtain ⟨half, tie⟩ : 2 * |u - x| ≤ 2 ^ dropped f num den ∧
      (2 * |u - x| = 2 ^ dropped f num den → rounded f num den % 2 = 0) := rounded_half pos
  have multiple (w : Int) (ne : w ≠ rounded f num den) :
      |u - x| ≤ |w * 2 ^ dropped f num den - x| ∧
        (|w * 2 ^ dropped f num den - x| = |u - x| → rounded f num den % 2 = 0) := by
    obtain ⟨le, same⟩ := abs_sub_le_of_multiple (q := rounded f num den) half ne
    exact ⟨le, fun as_near => tie (same as_near)⟩
  rcases dvd_or_units_lt y (dropped f num den) with divides | ⟨some, less⟩
  · have divides : ((2 ^ dropped f num den : Nat) : Int) ∣ v := by
      rw [Int.natCast_dvd]
      rwa [magnitude]
    obtain ⟨w, rfl⟩ := divides
    have same : ((((2 ^ dropped f num den : Nat) : Int) * w : Int) : ℚ) = w * 2 ^ dropped f num den := by
      push_cast
      ring
    rw [same]
    by_cases ne : w = rounded f num den
    · rw [ne]
      exact ⟨le_rfl, fun other => absurd rfl other⟩
    · exact ⟨(multiple w ne).1, fun _ => (multiple w ne).2⟩
  · -- The least number with the leading bit of the fraction is a multiple, and lies between the two.
    have least : (2 : ℚ) ^ f.fractionBits * 2 ^ dropped f num den ≤ x := by
      rw [le_div_iff₀ (by exact_mod_cast pos)]
      exact_mod_cast (Nat.le_div_iff_mul_le pos).mp (pow_le_of_dropped some)
    have below : (v : ℚ) < 2 ^ f.fractionBits * 2 ^ dropped f num den := by
      have : v < ((2 ^ f.fractionBits * 2 ^ dropped f num den : Nat) : Int) := by omega
      exact_mod_cast this
    have beyond : |(2 : ℚ) ^ f.fractionBits * 2 ^ dropped f num den - x| < |v - x| := by
      rw [abs_of_nonpos (by linarith), abs_of_nonpos (by linarith)]
      linarith
    have near : |u - x| ≤ |(2 : ℚ) ^ f.fractionBits * 2 ^ dropped f num den - x| := by
      by_cases ne : (2 ^ f.fractionBits : Int) = rounded f num den
      · have same : u = 2 ^ f.fractionBits * 2 ^ dropped f num den := by
          simp only [u]
          congr 1
          exact_mod_cast ne.symm
        rw [same]
      · exact_mod_cast (multiple _ ne).1
    exact ⟨(near.trans_lt beyond).le, fun _ same => absurd same (near.trans_lt beyond).ne'⟩

/-- The finite number in units, as seen from the side of zero on which numbers have the sign. -/
def numeratorToward (negative : Bool) (y : Binary f) : Int :=
  if negative then -y.numerator else y.numerator

theorem natAbs_numeratorToward (negative : Bool) (y : Binary f) :
    (y.numeratorToward negative).natAbs = y.units := by
  unfold numeratorToward numerator
  split <;> split <;> simp

theorem numeratorToward_of_negative {negative : Bool} {y : Binary f} (sign : y.negative = negative) :
    y.numeratorToward negative = y.units := by
  unfold numeratorToward numerator
  cases negative <;> simp [sign]

theorem abs_rational_sub (wide : 2 ≤ f.exponentBits) (num den : Nat) (negative : Bool) (y : Binary f) :
    |y.rational - if negative then -(num / den : ℚ) else num / den| =
      |(y.numeratorToward negative : ℚ) - num * f.unitsPerOne / den| / f.unitsPerOne := by
  have unit : (0 : ℚ) < f.unitsPerOne := by exact_mod_cast Nat.two_pow_pos f.unitExponent
  have whole : |(y.numeratorToward negative : ℚ) - num * f.unitsPerOne / den| / f.unitsPerOne =
      |(y.numeratorToward negative : ℚ) / f.unitsPerOne - num / den| := by
    rw [← abs_of_pos unit, ← abs_div, abs_of_pos unit, sub_div, mul_div_right_comm,
      mul_div_cancel_right₀ _ unit.ne']
  rw [whole, rational_eq wide, numeratorToward]
  cases negative with
  | false => rfl
  | true =>
    rw [if_pos rfl, if_pos rfl, ← abs_neg]
    congr 1
    push_cast
    ring

/-- Rounding gives the nearest number, if that is not out of range. -/
theorem isNearest_nearest (wide : 2 ≤ f.exponentBits) (long : f.fractionBits ≠ 0) (pos : 0 < den)
    (room : dropped f num den + 3 < 2 ^ f.exponentBits) (negative : Bool) :
    (nearest f negative num den).IsNearest (if negative then -(num / den : ℚ) else num / den) := by
  obtain ⟨finite, sign, units, bits⟩ := nearest_word room negative
  generalize nearest f negative num den = r at *
  have unit : (0 : ℚ) < f.unitsPerOne := by exact_mod_cast Nat.two_pow_pos f.unitExponent
  have written : (r.numeratorToward negative : ℚ) = rounded f num den * 2 ^ dropped f num den := by
    rw [numeratorToward_of_negative sign, units]
    push_cast
    rfl
  have distances (y : Binary f) := @rounded_nearest f num den pos y _ (natAbs_numeratorToward negative y)
  refine ⟨finite, fun y _ => ?_, fun y _ other same => ?_⟩
  · rw [abs_rational_sub wide, abs_rational_sub wide, written]
    exact div_le_div_of_nonneg_right (distances y).1 unit.le
  · rw [abs_rational_sub wide, abs_rational_sub wide, written, div_left_inj' unit.ne'] at same
    have apart : (y.numeratorToward negative : ℚ) ≠ rounded f num den * 2 ^ dropped f num den := by
      intro equal
      have side : y.numeratorToward negative = r.numeratorToward negative := by
        exact_mod_cast equal.trans written.symm
      have numerators : y.numerator = r.numerator := by
        unfold numeratorToward at side
        split at side <;> omega
      exact other (by rw [rational_eq wide, rational_eq wide, numerators])
    have even := (distances y).2 apart same
    -- The bits of the exponent field stand above the last one.
    have above : 2 ∣ dropped f num den * 2 ^ f.fractionBits := (dvd_pow_self 2 long).mul_left _
    omega

end Binary

end ContentQuery
