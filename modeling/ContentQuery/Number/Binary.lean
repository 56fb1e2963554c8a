import ContentQuery.Number.Power

/-!
# Binary floating-point numbers

Words of an interchange format: a sign bit, an exponent field and a fraction field. Every finite
number is a whole number of units, the unit being the least positive number of its format, so all
arithmetic is exact arithmetic on naturals followed by one rounding: to nearest, ties to even.
-/

namespace ContentQuery

/-- The widths of the two fields after the sign bit. -/
structure BinaryFormat where
  exponentBits : Nat
  fractionBits : Nat
  deriving Repr, DecidableEq

namespace BinaryFormat

def double : BinaryFormat := ⟨11, 52⟩

def single : BinaryFormat := ⟨8, 23⟩

def width (f : BinaryFormat) : Nat :=
  f.exponentBits + f.fractionBits + 1

/-- The least positive number is `2 ^ -unitExponent`. -/
def unitExponent (f : BinaryFormat) : Nat :=
  twoTo (f.exponentBits - 1) - 2 + f.fractionBits

def unitsPerOne (f : BinaryFormat) : Nat :=
  twoTo f.unitExponent

/-- The magnitude bits of infinity, above those of every finite number. -/
def infinityBits (f : BinaryFormat) : Nat :=
  (twoTo f.exponentBits - 1) * twoTo f.fractionBits

end BinaryFormat

/-- The quotient rounded to the nearest natural, a half to the even neighbour. -/
def divNearestEven (num den : Nat) : Nat :=
  let q := num / den
  let r := num % den
  if 2 * r < den then q else if den < 2 * r then q + 1 else q + q % 2

structure Binary (f : BinaryFormat) where
  bits : BitVec f.width
  deriving DecidableEq

abbrev Double := Binary .double

abbrev Single := Binary .single

/-- What a word stands for. A finite number is its sign and its magnitude in units. -/
inductive BinaryDatum where
  | nan
  | infinite (negative : Bool)
  | finite (negative : Bool) (units : Nat)
  deriving Repr, DecidableEq

namespace Binary

variable {f : BinaryFormat}

def negative (x : Binary f) : Bool :=
  x.bits.msb

def magnitudeBits (x : Binary f) : Nat :=
  x.bits.toNat % twoTo (f.exponentBits + f.fractionBits)

def exponentField (x : Binary f) : Nat :=
  x.magnitudeBits / twoTo f.fractionBits

def fractionField (x : Binary f) : Nat :=
  x.magnitudeBits % twoTo f.fractionBits

/-- The significand of a finite number, a multiple of `2 ^ scale` units. -/
def significand (x : Binary f) : Nat :=
  if x.exponentField = 0 then x.fractionField else twoTo f.fractionBits + x.fractionField

/-- The exponent of the significand of a finite number, in units. -/
def scale (x : Binary f) : Nat :=
  x.exponentField - 1

/-- The magnitude of a finite number in units. -/
def units (x : Binary f) : Nat :=
  x.significand * twoTo x.scale

def isNaN (x : Binary f) : Bool :=
  f.infinityBits < x.magnitudeBits

def isInfinite (x : Binary f) : Bool :=
  x.magnitudeBits == f.infinityBits

def isFinite (x : Binary f) : Bool :=
  x.magnitudeBits < f.infinityBits

/-- The number, or the sort of non-number, that the word stands for. -/
def datum (x : Binary f) : BinaryDatum :=
  if x.isFinite then .finite x.negative x.units
  else if x.isNaN then .nan
  else .infinite x.negative

def ofMagnitudeBits (f : BinaryFormat) (negative : Bool) (bits : Nat) : Binary f :=
  ⟨BitVec.ofNat f.width
    ((if negative then twoTo (f.exponentBits + f.fractionBits) else 0) + bits)⟩

/-- The magnitude bits of the number nearest to `num / den`. A significand of `1 + fractionBits`
bits is kept, and the exponent field counts the bits that are dropped. -/
def nearestBits (f : BinaryFormat) (num den : Nat) : Nat :=
  let scaled := num * f.unitsPerOne
  let whole := scaled / den
  let dropped := whole.log2 - f.fractionBits
  min (dropped * twoTo f.fractionBits + divNearestEven scaled (den * twoTo dropped)) f.infinityBits

/-- The number nearest to `num / den` with a sign; infinity if it is out of range. -/
def nearest (f : BinaryFormat) (negative : Bool) (num den : Nat) : Binary f :=
  ofMagnitudeBits f negative (nearestBits f num den)

def ofInt (f : BinaryFormat) (n : Int) : Binary f :=
  nearest f (n < 0) n.natAbs 1

/-- Equality of numbers: zeros of either sign are equal and a word that is no number equals none. -/
def sameNumber (x y : Binary f) : Bool :=
  match x.datum, y.datum with
  | .finite s u, .finite t v => u == v && (s == t || u == 0)
  | .infinite s, .infinite t => s == t
  | _, _ => false

def truncated? (x : Binary f) : Option Int :=
  match x.datum with
  | .finite negative units =>
    let whole : Int := (units / f.unitsPerOne : Nat)
    some (if negative then -whole else whole)
  | _ => none

def isWhole (x : Binary f) : Bool :=
  x.isFinite && x.units % f.unitsPerOne == 0

end Binary

/-- The same number in the wider format. A word that is no number keeps its fraction bits in front. -/
def Single.widened (x : Single) : Double :=
  match x.datum with
  | .finite negative units => Binary.nearest .double negative units BinaryFormat.single.unitsPerOne
  | .infinite negative => Binary.ofMagnitudeBits .double negative BinaryFormat.double.infinityBits
  | .nan =>
    Binary.ofMagnitudeBits .double x.negative
      (BinaryFormat.double.infinityBits ||| twoTo 51 ||| x.fractionField <<< 29)

end ContentQuery
