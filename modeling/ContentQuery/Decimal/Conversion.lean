import ContentQuery.Decimal.Basic
import ContentQuery.Number.Binary

/-!
# Decimals and binary numbers

From binary to decimal the factor that is a power of two is traded for one that is a power of ten,
within 96 bits, and the result is rounded to about as many digits as the significand holds. From
decimal to binary the whole and the fractional part are converted apart, and the sum is rounded to
the decimal's places.
-/

namespace ContentQuery.Decimal

/-! ### From binary -/

/-- `m / 2 ^ n` as a mantissa over a power of ten: while factors of two remain below, the mantissa is
halved if it is even and multiplied by five if it is odd and that fits. Each halving takes one place
away. -/
def clearHalves : Nat → Nat → Nat → Nat × Nat
  | 0, m, places => (m, places)
  | n + 1, m, places =>
    if m % 2 = 0 then clearHalves n (m / 2) (places - 1)
    else if 5 * m < mantissaBound then clearHalves n (5 * m) places
    else clearHalves n (m / 2) (places - 1)

/-- `m * 2 ^ n` as a mantissa times a power of ten: the mantissa is doubled, or divided by five when
there is no room to double. It fails if the power of ten cannot be multiplied back. -/
def clearDoubles? : Nat → Nat → Nat → Option (Nat × Nat)
  | 0, m, power => some (m, power)
  | n + 1, m, power =>
    if m < mantissaBound / 2 then clearDoubles? n (2 * m) (power - 1)
    else if n + 1 < 2 * power then none
    else clearDoubles? n (m / 5) power

/-- Drops places one at a time for as long as `again` asks for it. -/
def dropPlaces (again : Nat → Nat → Bool) (step : Nat → Nat) : Nat → Nat → Nat × Nat
  | m, 0 => (m, 0)
  | m, places + 1 =>
    if again m (places + 1) then dropPlaces again step (step m) places else (m, places + 1)

def tenth (m : Nat) : Nat :=
  if 5 ≤ m % 10 then m / 10 + 1 else m / 10

/-- The mantissa cut to the greatest scale, then to 52 bits, then to its last digit that is not
zero. -/
def tidy (m places : Nat) : Nat × Nat :=
  let (m, places) :=
    dropPlaces (fun _ places => maxScale < places) (fun m => if m < 10 then 0 else tenth m) m places
  let (m, places) := dropPlaces (fun m _ => twoTo 52 ≤ m) tenth m places
  dropPlaces (fun m _ => m % 10 = 0) (· / 10) m places

/-- The decimal nearest in this sense to a finite number. -/
def ofDouble? (x : Double) : Option Decimal :=
  if !x.isFinite then none
  else if x.units = 0 then make? x.negative 0 0
  else
    let one := BinaryFormat.double.unitExponent
    if x.scale ≤ one then
      let (m, places) := clearHalves (one - x.scale) x.significand (one - x.scale)
      let (m, places) := tidy m places
      make? x.negative m places
    else
      (clearDoubles? (x.scale - one) x.significand (x.scale - one)).bind fun (m, power) =>
        make? x.negative (m * tenTo power) 0

/-! ### To binary -/

/-- Arithmetic on magnitudes, each operation rounded once. -/
structure Magnitude where
  value : Double

namespace Magnitude

def ofRatio (num den : Nat) : Magnitude :=
  ⟨Binary.nearest .double false num den⟩

def add (x y : Magnitude) : Magnitude :=
  ofRatio (x.value.units + y.value.units) BinaryFormat.double.unitsPerOne

def mul (x y : Magnitude) : Magnitude :=
  ofRatio (x.value.units * y.value.units) (BinaryFormat.double.unitsPerOne * BinaryFormat.double.unitsPerOne)

def div (x y : Magnitude) : Magnitude :=
  ofRatio x.value.units y.value.units

/-- The nearest whole number, a half away from zero. -/
def round (x : Magnitude) : Magnitude :=
  let one := BinaryFormat.double.unitsPerOne
  ofRatio ((2 * x.value.units + one) / (2 * one)) 1

/-- `r * a ^ n` by repeated squaring. -/
def powerTimes (r a : Magnitude) (n : Nat) : Magnitude :=
  if n = 0 then r
  else powerTimes (if n % 2 = 1 then r.mul a else r) (a.mul a) (n / 2)
termination_by n
decreasing_by omega

end Magnitude

def magnitude (d : Decimal) : Magnitude :=
  let one := tenTo d.scale
  let whole := Magnitude.ofRatio (d.mantissa / one) 1
  let fraction := (Magnitude.ofRatio (d.mantissa % one) 1).div (.ofRatio one 1)
  if fraction.value.units = 0 then whole
  else
    let shift := Magnitude.powerTimes (.ofRatio 1 1) (.ofRatio 10 1) d.scale
    (((whole.add fraction).mul shift).round).div shift

/-- The binary number that stands for the decimal. An integer that is zero has no sign. -/
def toDouble (d : Decimal) : Double :=
  let negative := d.negative && (d.scale != 0 || d.mantissa != 0)
  Binary.ofMagnitudeBits .double negative d.magnitude.value.magnitudeBits

end ContentQuery.Decimal
