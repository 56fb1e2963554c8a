import ContentQuery.Decimal.Basic
import ContentQuery.Number.Written

/-!
# Reading decimals

A sign, digits with one optional point, and underscores between them. Places that the mantissa or the
scale cannot hold are rounded away; integer digits that do not fit are refused. A text that is no
such numeral may still be one followed by `e` and an exponent.
-/

namespace ContentQuery.Decimal

/-- A character that may follow the first digit. -/
def isDigitOrGap (c : Char) : Bool :=
  c.isDigit || c == '_'

structure Reading where
  mantissa : Nat
  scale : Nat
  pointSeen : Bool
  digitSeen : Bool

/-- Mantissas from here on are long: another digit may outgrow a 64-bit word. -/
def longMantissa : Nat := (twoTo 64 - 1) / 10 - 255

/-- The character that decides how the places dropped after a mantissa are rounded: the first of them,
behind any underscores if the mantissa was long already before its last digit. -/
def deciding? (mantissa : Nat) (dropped : List Char) : Option Char :=
  if longMantissa ≤ mantissa / 10 then (dropped.dropWhile (· == '_')).head? else dropped.head?

/-- The mantissa and scale after dropping places: a half is rounded up, and if that does not fit one
place more is dropped. An underscore that decides counts as zero. -/
def roundPlaces? (p : Reading) (dropped : List Char) : Option (Nat × Nat) :=
  if !dropped.all isDigitOrGap then none
  else if (deciding? p.mantissa dropped).any fun c => '5' ≤ c && c ≤ '9' then
    if p.mantissa + 1 < mantissaBound then some (p.mantissa + 1, p.scale)
    else if p.scale = 0 then none
    else some ((p.mantissa + 5) / 10, p.scale - 1)
  else some (p.mantissa, p.scale)

/-- Mantissa and scale of the numeral that continues a numeral read so far. -/
def readPlaces? (p : Reading) : List Char → Option (Nat × Nat)
  | [] => if p.digitSeen then some (p.mantissa, p.scale) else none
  | c :: rest =>
    if p.pointSeen && maxScale ≤ p.scale then roundPlaces? p (c :: rest)
    else if c.isDigit then
      let next := 10 * p.mantissa + (c.toNat - 0x30)
      if next < mantissaBound then
        readPlaces? ⟨next, if p.pointSeen then p.scale + 1 else 0, p.pointSeen, true⟩ rest
      else if p.pointSeen then roundPlaces? p (c :: rest)
      else none
    else if c == '.' && !p.pointSeen then readPlaces? { p with pointSeen := true } rest
    else if c == '_' && p.digitSeen then readPlaces? p rest
    else none

/-- A numeral without exponent. Zero has no sign. -/
def ofPlain? (s : List Char) : Option Decimal :=
  let (negative, body) := Binary.splitSign s
  (readPlaces? ⟨0, 0, false, false⟩ body).bind fun (mantissa, scale) =>
    unsignedZero? negative mantissa scale

/-- The mantissa without its last `places` digits, rounded by the first of them, a half up. -/
def dropDigits (mantissa places : Nat) : Nat :=
  if places = 0 then mantissa else (mantissa / tenTo (places - 1) + 5) / 10

/-- The decimal divided by `10 ^ power`. Places beyond the greatest scale are rounded away first. -/
def shiftDown? (d : Decimal) (power : Nat) : Option Decimal :=
  if maxScale < power then none
  else
    let excess := d.scale + power - maxScale
    make? d.negative (dropDigits d.mantissa excess) (d.scale + power - excess)

/-- The decimal multiplied by `10 ^ power`, if it fits. -/
def shiftUp? (d : Decimal) (power : Nat) : Option Decimal :=
  if power ≤ d.scale then make? d.negative d.mantissa (d.scale - power)
  else if maxScale < power then none
  else unsignedZero? d.negative (d.mantissa * tenTo (power - d.scale)) 0

def readPower? (s : List Char) : Option Nat :=
  let digits := match s with
    | '+' :: rest => rest
    | _ => s
  if Binary.isNumeral digits then some (Binary.natOfDigits digits) else none

def ofScientific? (s : List Char) : Option Decimal :=
  let isMark (c : Char) : Bool := c == 'e' || c == 'E'
  match s.dropWhile (!isMark ·) with
  | [] => none
  | _ :: power =>
    (ofPlain? (s.takeWhile (!isMark ·))).bind fun base =>
      match power with
      | '-' :: digits => (readPower? digits).bind base.shiftDown?
      | digits => (readPower? digits).bind base.shiftUp?

def ofText? (s : String) : Option Decimal :=
  (ofPlain? s.toList).or (ofScientific? s.toList)

end ContentQuery.Decimal
