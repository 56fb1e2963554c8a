import ContentQuery.Number.Shortest
import ContentQuery.Text.Split

/-!
# Decimal text of binary numbers

Writing uses the shortest digits that read back. In plain text there is never an exponent, and a
whole number has no point; detailed text always has a point or an exponent, the exponent for numbers
from `10 ^ 16` on and below `10 ^ -4`. Reading takes digits with an optional point and an optional
exponent and rounds once, to nearest.
-/

namespace ContentQuery.Binary

variable {f : BinaryFormat}

/-- The digits with a point at their decimal position. -/
def positional (d : Digits) : List Char :=
  let digits := Nat.toDigits 10 d.significand
  if 0 ≤ d.exponent then digits ++ List.replicate d.exponent.toNat '0'
  else
    let places := d.exponent.natAbs
    let padded := List.replicate (places + 1 - digits.length) '0' ++ digits
    padded.take (padded.length - places) ++ '.' :: padded.drop (padded.length - places)

/-- The digits with a point after the first, and the exponent. -/
def scientific (d : Digits) : List Char :=
  let digits := Nat.toDigits 10 d.significand
  let power := d.exponent + digits.length - 1
  digits.take 1 ++ (if digits.length = 1 then [] else '.' :: digits.drop 1) ++
    'e' :: (toString power).toList

/-- The texts of a number that is not finite, and the sign before that of one that is. -/
def withSign (x : Binary f) (magnitude : List Char) : String :=
  if x.isNaN then "NaN"
  else
    let body := if x.isInfinite then "inf".toList else magnitude
    String.ofList (if x.negative then '-' :: body else body)

/-- Plain text: positional, without a point if whole. -/
def text (x : Binary f) : String :=
  x.withSign (positional x.shortest)

/-- Whether the decimal is written with an exponent in detailed text. -/
def wantsExponent (d : Digits) : Bool :=
  let power := d.exponent + (Nat.toDigits 10 d.significand).length
  d.significand != 0 && (16 < power || power < -3)

/-- Detailed text: with a point or an exponent. -/
def detailed (x : Binary f) : String :=
  let d := x.shortest
  x.withSign
    (if wantsExponent d then scientific d
    else if 0 ≤ d.exponent then positional d ++ ['.', '0']
    else positional d)

/-! ### Reading -/

def natOfDigits (digits : List Char) : Nat :=
  digits.foldl (fun n c => 10 * n + (c.toNat - 0x30)) 0

def isNumeral (s : List Char) : Bool :=
  !s.isEmpty && s.all Char.isDigit

/-- A leading sign and the rest; no sign reads as plus. -/
def splitSign : List Char → Bool × List Char
  | '-' :: rest => (true, rest)
  | '+' :: rest => (false, rest)
  | s => (false, s)

/-- The number nearest to `significand * 10 ^ exponent`. A decimal whose first digit lies beyond the
range of every format is not computed: it is infinity, or zero. -/
def ofDecimal (f : BinaryFormat) (negative : Bool) (significand : Nat) (exponent : Int) : Binary f :=
  let power := exponent + (Nat.toDigits 10 significand).length
  if significand = 0 || power < -400 then nearest f negative 0 1
  else if 400 < power then ofMagnitudeBits f negative f.infinityBits
  else if 0 ≤ exponent then nearest f negative (significand * tenTo exponent.toNat) 1
  else nearest f negative significand (tenTo exponent.natAbs)

/-- The exponent after `e`: an optional sign and digits. -/
def readExponent? (s : List Char) : Option Int :=
  let (negative, digits) := splitSign s
  if isNumeral digits then
    let n : Int := natOfDigits digits
    some (if negative then -n else n)
  else none

/-- Digits with an optional point, at least one digit: the digits, and how many follow the point. -/
def readFixed? (s : List Char) : Option (List Char × Nat) :=
  let whole := s.takeWhile Char.isDigit
  match s.dropWhile Char.isDigit with
  | [] => if whole.isEmpty then none else some (whole, 0)
  | '.' :: fraction =>
    if fraction.all Char.isDigit && !(whole.isEmpty && fraction.isEmpty) then
      some (whole ++ fraction, fraction.length)
    else none
  | _ => none

/-- Reads an optional sign and then `inf`, `infinity` or `nan` in any case, or a decimal with an
optional exponent. -/
def ofText? (f : BinaryFormat) (s : String) : Option (Binary f) :=
  let (negative, body) := splitSign s.toList
  let lower := body.map Char.toLower
  if lower == "inf".toList || lower == "infinity".toList then
    some (ofMagnitudeBits f negative f.infinityBits)
  else if lower == "nan".toList then
    some (ofMagnitudeBits f negative (f.infinityBits + twoTo (f.fractionBits - 1)))
  else
    match Text.splitOnce 'e' lower with
    | none =>
      (readFixed? body).map fun (digits, places) =>
        ofDecimal f negative (natOfDigits digits) (-places)
    | some (base, power) =>
      match readFixed? base, readExponent? power with
      | some (digits, places), some e =>
        some (ofDecimal f negative (natOfDigits digits) (e - places))
      | _, _ => none

end ContentQuery.Binary
