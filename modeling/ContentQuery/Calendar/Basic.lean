/-!
# Dates and times

Dates of the proleptic Gregorian calendar, and times of day to the nanosecond. A minute may end with
a leap second, number 60.
-/

namespace ContentQuery

def firstYear : Int := -262143

def lastYear : Int := 262142

/-- Every fourth year, but of the centuries only every fourth. -/
def isLeapYear (year : Int) : Bool :=
  year % 4 == 0 && (year % 100 != 0 || year % 400 == 0)

def daysInMonth (year : Int) (month : Nat) : Nat :=
  if month = 2 then if isLeapYear year then 29 else 28
  else if month = 4 ∨ month = 6 ∨ month = 9 ∨ month = 11 then 30
  else 31

def IsDate (year : Int) (month day : Nat) : Prop :=
  firstYear ≤ year ∧ year ≤ lastYear ∧ 1 ≤ month ∧ month ≤ 12 ∧ 1 ≤ day ∧
    day ≤ daysInMonth year month

instance (year : Int) (month day : Nat) : Decidable (IsDate year month day) := by
  unfold IsDate; infer_instance

structure Date where
  year : Int
  month : Nat
  day : Nat
  isDate : IsDate year month day
  deriving DecidableEq

namespace Date

def make? (year : Int) (month day : Nat) : Option Date :=
  if h : IsDate year month day then some ⟨year, month, day, h⟩ else none

def next? (d : Date) : Option Date :=
  (make? d.year d.month (d.day + 1)).or
    ((make? d.year (d.month + 1) 1).or (make? (d.year + 1) 1 1))

def previous? (d : Date) : Option Date :=
  if 1 < d.day then make? d.year d.month (d.day - 1)
  else if 1 < d.month then make? d.year (d.month - 1) (daysInMonth d.year (d.month - 1))
  else make? (d.year - 1) 12 31

end Date

def nanosPerSecond : Nat := 1000000000

def IsTime (hour minute second nano : Nat) : Prop :=
  hour < 24 ∧ minute < 60 ∧ second ≤ 60 ∧ nano < nanosPerSecond

instance (hour minute second nano : Nat) : Decidable (IsTime hour minute second nano) := by
  unfold IsTime; infer_instance

structure Time where
  hour : Nat
  minute : Nat
  second : Nat
  nano : Nat
  isTime : IsTime hour minute second nano
  deriving DecidableEq

namespace Time

def make? (hour minute second nano : Nat) : Option Time :=
  if h : IsTime hour minute second nano then some ⟨hour, minute, second, nano, h⟩ else none

def midnight : Time :=
  ⟨0, 0, 0, 0, by decide⟩

end Time

structure DateTime where
  date : Date
  time : Time
  deriving DecidableEq

namespace DateTime

/-- The date and time that an offset from universal time, in minutes below a day either way, takes
back to universal time. -/
def toUniversal? (wall : DateTime) (offset : Int) : Option DateTime :=
  let minutes : Int := 60 * wall.time.hour + wall.time.minute - offset
  let date? :=
    if minutes < 0 then wall.date.previous?
    else if 24 * 60 ≤ minutes then wall.date.next?
    else some wall.date
  let ofDay := (minutes % (24 * 60)).toNat
  date?.bind fun date =>
    (Time.make? (ofDay / 60) (ofDay % 60) wall.time.second wall.time.nano).map (⟨date, ·⟩)

end DateTime

end ContentQuery
