import ContentQuery.Number.Integer
import ContentQuery.Number.Power

/-!
# Decimal numbers

A sign, a mantissa below `2 ^ 96` and a scale of at most 28: the number is the mantissa divided by
`10 ^ scale`. The scale is kept, so `1.0` and `1.00` are written differently and compare equal.
-/

namespace ContentQuery

/-- Mantissas are below `2 ^ 96`. -/
def mantissaBound : Nat := 79228162514264337593543950336

def maxScale : Nat := 28

/-- The number `mantissa / 10 ^ scale` with a sign. -/
structure Decimal where
  negative : Bool
  mantissa : Nat
  scale : Nat
  mantissa_lt : mantissa < mantissaBound
  scale_le : scale ≤ maxScale
  deriving DecidableEq

namespace Decimal

def make? (negative : Bool) (mantissa scale : Nat) : Option Decimal :=
  if h : mantissa < mantissaBound ∧ scale ≤ maxScale then
    some ⟨negative, mantissa, scale, h.1, h.2⟩
  else none

/-- Like `make?`, but zero has no sign. -/
def unsignedZero? (negative : Bool) (mantissa scale : Nat) : Option Decimal :=
  make? (negative && mantissa != 0) mantissa scale

def numerator (d : Decimal) : Int :=
  if d.negative then -(d.mantissa : Int) else d.mantissa

/-- The integer part, toward zero. -/
def truncated (d : Decimal) : Int :=
  d.numerator.tdiv (tenTo d.scale : Nat)

def isWhole (d : Decimal) : Bool :=
  d.mantissa % tenTo d.scale == 0

/-- Equality of numbers, whatever their scales. -/
def sameNumber (d e : Decimal) : Bool :=
  d.numerator * (tenTo e.scale : Nat) == e.numerator * (tenTo d.scale : Nat)

/-- All digits of the mantissa, `scale` of them after the point, at least one before it. -/
def text (d : Decimal) : String :=
  let digits := Nat.toDigits 10 d.mantissa
  let padded := List.replicate (d.scale + 1 - digits.length) '0' ++ digits
  let whole := padded.take (padded.length - d.scale)
  let fraction := padded.drop (padded.length - d.scale)
  String.ofList
    ((if d.negative then ['-'] else []) ++ whole ++
      (if d.scale = 0 then [] else '.' :: fraction))

/-- An integer as a decimal without places. Words of every kind fit. -/
def ofInteger (n : Integer) : Decimal :=
  ⟨n.val < 0, n.val.natAbs, 0, by
    have hlo := n.lo_le
    have hhi := n.le_hi
    have h : -9223372036854775808 ≤ n.kind.lo ∧ n.kind.hi ≤ 18446744073709551615 := by
      cases n.kind <;> decide
    simp only [mantissaBound]
    omega, by simp [maxScale]⟩

end Decimal

end ContentQuery
