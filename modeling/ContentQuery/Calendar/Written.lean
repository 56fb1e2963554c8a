import ContentQuery.Calendar.Basic

/-!
# Text of dates and times

Numbers have leading zeros. A year of other than four digits has a sign.
-/

namespace ContentQuery

/-- The numeral with at least `width` digits. -/
def padded (width n : Nat) : String :=
  let digits := Nat.toDigits 10 n
  String.ofList (List.replicate (width - digits.length) '0' ++ digits)

def yearText (year : Int) : String :=
  if 0 ≤ year ∧ year ≤ 9999 then padded 4 year.natAbs
  else (if year < 0 then "-" else "+") ++ padded 4 year.natAbs

def Date.text (d : Date) : String :=
  yearText d.year ++ "-" ++ padded 2 d.month ++ "-" ++ padded 2 d.day

/-- Which digits of a second's fraction are written. -/
inductive FractionStyle where
  | omitted
  /-- None for a whole second, else three, six or nine, the fewest that are exact. -/
  | exact
  | micro
  deriving Repr, DecidableEq

def FractionStyle.text (style : FractionStyle) (nano : Nat) : String :=
  match style with
  | omitted => ""
  | micro => "." ++ padded 6 (nano / 1000)
  | exact =>
    if nano = 0 then ""
    else if nano % 1000000 = 0 then "." ++ padded 3 (nano / 1000000)
    else if nano % 1000 = 0 then "." ++ padded 6 (nano / 1000)
    else "." ++ padded 9 nano

def Time.text (t : Time) (style : FractionStyle) : String :=
  padded 2 t.hour ++ ":" ++ padded 2 t.minute ++ ":" ++ padded 2 t.second ++ style.text t.nano

namespace DateTime

def text (dt : DateTime) (mark : String) (style : FractionStyle) : String :=
  dt.date.text ++ mark ++ dt.time.text style

/-- The interchange form without a zone. -/
def localText (dt : DateTime) : String :=
  dt.text "T" .exact

/-- The interchange form with the offset of universal time. -/
def universalText (dt : DateTime) : String :=
  dt.localText ++ "+00:00"

end DateTime

end ContentQuery
