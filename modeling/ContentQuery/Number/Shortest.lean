import ContentQuery.Number.Binary

/-!
# Shortest decimal digits

The decimal with the fewest digits among those that round to a given binary number. Decimal grids
are tried from coarse to fine; on the first grid with a point that reads back, the nearer point is
taken, and the upper one of two equally near.
-/

namespace ContentQuery.Binary

variable {f : BinaryFormat}

/-- Whether the number is the least of its exponent, so that the number below it is nearer than the
number above. -/
def isLeastOfExponent (x : Binary f) : Bool :=
  x.fractionField == 0 && 1 < x.exponentField

/-- The ends of the interval that rounds to the number, in quarters of a unit. -/
def interval (x : Binary f) : Nat × Nat :=
  let half := 2 * twoTo x.scale
  (4 * x.units - (if x.isLeastOfExponent then half / 2 else half), 4 * x.units + half)

/-- Whether `num / den` quarters of a unit round to the number. The ends of the interval do when the
significand is even. -/
def readsBack (x : Binary f) (num den : Nat) : Bool :=
  let (lo, hi) := x.interval
  if x.fractionField % 2 == 0 then lo * den ≤ num && num ≤ hi * den
  else lo * den < num && num < hi * den

/-- The numbers of a grid are the multiples of `10 ^ power / 10 ^ unitExponent`. The multiple nearest
to the number among its two neighbours on the grid, if it reads back. -/
def onGrid? (x : Binary f) (power : Nat) : Option Nat :=
  let one := tenTo f.unitExponent
  let step := 4 * f.unitsPerOne * tenTo power
  let value := 4 * x.units * one
  let below := value / step
  let above := below + 1
  match x.readsBack (below * step) one, x.readsBack (above * step) one with
  | true, true => if value - below * step < above * step - value then some below else some above
  | true, false => some below
  | false, true => some above
  | false, false => none

/-- A decimal significand and the power of ten that it is multiplied by. -/
structure Digits where
  significand : Nat
  exponent : Int
  deriving Repr, DecidableEq

/-- Grids with the given powers of ten, from the coarsest downwards. -/
def firstOnGrid? (x : Binary f) : Nat → Option (Nat × Nat)
  | 0 => (x.onGrid? 0).map (·, 0)
  | power + 1 =>
    match x.onGrid? (power + 1) with
    | some n => some (n, power + 1)
    | none => firstOnGrid? x power

/-- The shortest digits of a finite number's magnitude; zero is `0`. -/
def shortest (x : Binary f) : Digits :=
  if x.units = 0 then ⟨0, 0⟩
  else
    let places := (Nat.toDigits 10 (x.units * tenTo f.unitExponent / f.unitsPerOne)).length
    match x.firstOnGrid? places with
    | some (n, power) => ⟨n, (power : Int) - f.unitExponent⟩
    | none => ⟨0, 0⟩

end ContentQuery.Binary
