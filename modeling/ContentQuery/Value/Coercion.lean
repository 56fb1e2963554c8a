import ContentQuery.Calendar.Reading
import ContentQuery.Calendar.Written
import ContentQuery.Decimal.Conversion
import ContentQuery.Decimal.Reading
import ContentQuery.Text.Split
import ContentQuery.TypeTag
import ContentQuery.Value.Basic

/-!
# Coercion

The value that stands for a given value under a property type. Each type has one kind of value. Null
stands for itself and a list for the list of what its elements stand for.
-/

namespace ContentQuery

/-- A value that no value of a type stands for. -/
structure Mismatch where
  value : Value
  expected : TypeTag

namespace Value

def utf8 (s : String) : List UInt8 :=
  s.toUTF8.toList

def ofUtf8? (b : List UInt8) : Option String :=
  String.fromUTF8? ⟨b.toArray⟩

/-- The text of a value; maps, lists and null have none. -/
def toText? : Value → Option String
  | str s => some s
  | char c => some c.toString
  | bool b => some (if b then "true" else "false")
  | bytes b => ofUtf8? b
  | date d => some d.text
  | dateTime dt => some dt.localText
  | dateTimeUtc dt => some dt.universalText
  | decimal d => some d.text
  | single x => some x.widened.text
  | double x => some x.text
  | int n => n.toSigned64?.map Integer.text
  | map _ | list _ | null => none

/-- The signed 64-bit integer that a numeral with an optional sign spells. -/
def readInteger? (s : List Char) : Option Integer :=
  let (negative, digits) := Binary.splitSign s
  if Binary.isNumeral digits then
    let n : Int := Binary.natOfDigits digits
    Integer.ofInt? .i64 (if negative then -n else n)
  else none

/-- The integer that a binary number is, without its fraction. -/
def truncateDouble? (x : Double) : Option Integer :=
  x.truncated?.bind (Integer.ofInt? .i64)

/-- The integer that a value is, if it is one. -/
def toLong? : Value → Option Integer
  | str s => readInteger? (Text.trimChars s.toList)
  | single x => if x.widened.isWhole then truncateDouble? x.widened else none
  | double x => if x.isWhole then truncateDouble? x else none
  | decimal d => if d.isWhole then Integer.ofInt? .i64 d.truncated else none
  | v => v.toSigned64?

def toForcedInteger? : Value → Option Integer
  | bool b => Integer.ofInt? .i64 (if b then 1 else 0)
  | str s =>
    (readInteger? (Text.trimChars s.toList)).or
      ((Binary.ofText? .double (Text.trim s)).bind truncateDouble?)
  | single x => truncateDouble? x.widened
  | double x => truncateDouble? x
  | decimal d => Integer.ofInt? .i64 d.truncated
  | v => v.toSigned64?

/-- The finite binary number nearest to a value. -/
def toFinite? (v : Value) : Option Double :=
  let x? := match v with
    | str s => Binary.ofText? .double (Text.trim s)
    | decimal d => some d.toDouble
    | v => v.toDouble?
  x?.filter (·.isFinite)

def toDecimal? : Value → Option Decimal
  | decimal d => some d
  | str s => Decimal.ofText? (Text.trim s)
  | single x => Decimal.ofDouble? x.widened
  | double x => Decimal.ofDouble? x
  | v => v.toSigned64?.map Decimal.ofInteger

/-- The truth value of a value: a truth value, its name, or zero or one. -/
def toBool? : Value → Option Bool
  | bool b => some b
  | str s =>
    if Text.sameIgnoringCase (Text.trim s) "true" then some true
    else if Text.sameIgnoringCase (Text.trim s) "false" then some false
    else none
  | v =>
    match v.toSigned64? with
    | some n => if n.val = 0 then some false else if n.val = 1 then some true else none
    | none => none

/-- The date of a value, in universal time where the value has a zone. -/
def toDate? : Value → Option Date
  | date d => some d
  | dateTime dt => some dt.date
  | dateTimeUtc dt => some dt.date
  | str s =>
    let s := Text.trim s
    (Date.ofText? s).or ((DateTime.ofText? s).map DateTime.date)
  | _ => none

/-- The date and time of a value, a date alone beginning at midnight. -/
def toDateTime? : Value → Option DateTime
  | dateTime dt => some dt
  | dateTimeUtc dt => some dt
  | date d => some ⟨d, .midnight⟩
  | str s =>
    let s := Text.trim s
    (DateTime.ofText? s).or ((Date.ofText? s).map (⟨·, .midnight⟩))
  | _ => none

def toBytes? : Value → Option (List UInt8)
  | bytes b => some b
  | str s => some (utf8 s)
  | _ => none

/-- What a single value stands for under a type. -/
def convert? (v : Value) : TypeTag → Option Value
  | .string | .reference => v.toText?.map str
  | .long => v.toLong?.map int
  | .forceInteger => v.toForcedInteger?.map int
  | .double => v.toFinite?.map double
  | .decimal => v.toDecimal?.map decimal
  | .boolean => v.toBool?.map bool
  | .date => v.toDate?.map date
  | .dateTime => v.toDateTime?.map dateTime
  | .binary => v.toBytes?.map bytes

mutual

/-- What a value stands for under a type. The first element that stands for nothing is the fault. -/
def coerce (tag : TypeTag) : Value → Except Mismatch Value
  | null => .ok null
  | list items => (coerceAll tag items).map list
  | v =>
    match v.convert? tag with
    | some w => .ok w
    | none => .error ⟨v, tag⟩

def coerceAll (tag : TypeTag) : List Value → Except Mismatch (List Value)
  | [] => .ok []
  | v :: rest =>
    match coerce tag v with
    | .error e => .error e
    | .ok w => (coerceAll tag rest).map (w :: ·)

end

end Value

end ContentQuery
