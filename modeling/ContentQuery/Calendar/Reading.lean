import ContentQuery.Calendar.Basic
import ContentQuery.Number.Written
import ContentQuery.Text.Blank

/-!
# Reading dates and times

The interchange form has a fixed number of digits everywhere and ends with a zone; its date and time
are taken back to universal time. The looser forms have no zone, allow blanks before numbers, and take
fewer digits, or a signed year of any length. Each reader gives what it read and the text after it.
-/

namespace ContentQuery.Calendar

open Text

/-- The number at the start of a text, of at least `least` and at most `most` digits. -/
def number (least most : Nat) (s : List Char) : Option (Nat × List Char) :=
  let digits := (s.take most).takeWhile Char.isDigit
  if digits.length < least then none
  else some (Binary.natOfDigits digits, s.drop digits.length)

def after (marks : List Char) : List Char → Option (List Char)
  | [] => none
  | c :: rest => if c ∈ marks then some rest else none

/-- An optional point and digits, as nanoseconds; digits after the ninth do not count. -/
def fraction : List Char → Option (Nat × List Char)
  | '.' :: rest =>
    let digits := rest.takeWhile Char.isDigit
    if digits.isEmpty then none
    else
      let kept := digits.take 9
      some (Binary.natOfDigits kept * tenTo (9 - kept.length), rest.drop digits.length)
  | s => some (0, s)

/-- An offset from universal time, in minutes. -/
def offset : List Char → Option (Int × List Char)
  | 'Z' :: rest => some (0, rest)
  | 'z' :: rest => some (0, rest)
  | sign :: rest => do
    guard (sign ∈ ['+', '-', '\u2212'])
    let (hours, rest) ← number 2 2 rest
    let rest ← after [':'] rest
    let (minutes, rest) ← number 2 2 rest
    guard (hours < 24 ∧ minutes < 60)
    let total : Int := 60 * hours + minutes
    return (if sign = '+' then total else -total, rest)
  | [] => none

/-- Date and time in the interchange form, in universal time. -/
def interchange? (s : List Char) : Option DateTime := do
  let (year, s) ← number 4 4 s
  let s ← after ['-'] s
  let (month, s) ← number 2 2 s
  let s ← after ['-'] s
  let (day, s) ← number 2 2 s
  let s ← after ['T', 't', ' '] s
  let (hour, s) ← number 2 2 s
  let s ← after [':'] s
  let (minute, s) ← number 2 2 s
  let s ← after [':'] s
  let (second, s) ← number 2 2 s
  let (nano, s) ← fraction s
  let (offset, s) ← offset s
  guard s.isEmpty
  let date ← Date.make? year month day
  let time ← Time.make? hour minute second nano
  DateTime.toUniversal? ⟨date, time⟩ offset

def skipBlanks (s : List Char) : List Char :=
  s.dropWhile isBlankChar

/-- A year: up to four digits, or a sign and any number of them. -/
def looseYear (s : List Char) : Option (Int × List Char) :=
  match skipBlanks s with
  | '-' :: rest => (number 1 rest.length rest).map fun (n, rest) => (-n, rest)
  | '+' :: rest => (number 1 rest.length rest).map fun (n, rest) => (n, rest)
  | s => (number 1 4 s).map fun (n, rest) => (n, rest)

def looseNumber (s : List Char) : Option (Nat × List Char) :=
  number 1 2 (skipBlanks s)

/-- Year, month and day joined by hyphens. -/
def looseDate (s : List Char) : Option (Date × List Char) := do
  let (year, s) ← looseYear s
  let s ← after ['-'] s
  let (month, s) ← looseNumber s
  let s ← after ['-'] s
  let (day, s) ← looseNumber s
  let date ← Date.make? year month day
  return (date, s)

/-- Hour, minute and second joined by colons, with an optional fraction. -/
def looseTime (s : List Char) : Option (Time × List Char) := do
  let (hour, s) ← looseNumber s
  let s ← after [':'] s
  let (minute, s) ← looseNumber s
  let s ← after [':'] s
  let (second, s) ← looseNumber s
  let (nano, s) ← fraction s
  let time ← Time.make? hour minute second nano
  return (time, s)

/-- A date and a time, the text between them removed by `mark`. -/
def looseDateTime? (mark : List Char → Option (List Char)) (s : List Char) : Option DateTime := do
  let (date, s) ← looseDate s
  let s ← mark s
  let (time, s) ← looseTime s
  guard s.isEmpty
  return ⟨date, time⟩

end ContentQuery.Calendar

namespace ContentQuery

def Date.ofText? (s : String) : Option Date := do
  let (date, rest) ← Calendar.looseDate s.toList
  guard rest.isEmpty
  return date

/-- Reads a date and a time: in the interchange form, with a `T` between them, or with blanks. -/
def DateTime.ofText? (s : String) : Option DateTime :=
  (Calendar.interchange? s.toList).or
    ((Calendar.looseDateTime? (Calendar.after ['T']) s.toList).or
      (Calendar.looseDateTime? (fun s => some (Calendar.skipBlanks s)) s.toList))

end ContentQuery
