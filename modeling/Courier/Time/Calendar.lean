/-!
# Time — Calendar

Dates of the proleptic Gregorian calendar and the days since 1970-01-01.  A year is counted from
March, so that the leap day is its last one, in eras of 400 years of 146097 days each.
-/

namespace Courier.Time

/-- A year, a month and a day. -/
structure Date where
  year : Int
  month : Nat
  day : Nat
  deriving DecidableEq, Repr

namespace Date

/-- Whether a year has a 29th of February. -/
def isLeap (year : Int) : Bool :=
  year % 4 == 0 && (year % 100 != 0 || year % 400 == 0)

/-- The days of a month. -/
def daysIn (year : Int) (month : Nat) : Nat :=
  if month = 2 then (if isLeap year then 29 else 28)
  else if month = 4 ∨ month = 6 ∨ month = 9 ∨ month = 11 then 30
  else 31

/-- Whether the calendar has the date. -/
def exists? (d : Date) : Bool :=
  1 ≤ d.month && d.month ≤ 12 && 1 ≤ d.day && d.day ≤ daysIn d.year d.month

/-- The days before a year of an era. -/
def daysBeforeYear (yearOfEra : Int) : Int :=
  365 * yearOfEra + yearOfEra / 4 - yearOfEra / 100

/-- The days before a month, months counted from March as 0. -/
def daysBeforeMonth (monthFromMarch : Int) : Int :=
  (153 * monthFromMarch + 2) / 5

/-- The days from 1970-01-01 to a date. -/
def toDays (d : Date) : Int :=
  let y := if d.month ≤ 2 then d.year - 1 else d.year
  let m : Int := if d.month ≤ 2 then d.month + 9 else d.month - 3
  y / 400 * 146097 + daysBeforeYear (y % 400) + daysBeforeMonth m + (d.day - 1) - 719468

/-- The date that many days after 1970-01-01. -/
def ofDays (days : Int) : Date :=
  let z := days + 719468
  let dayOfEra := z % 146097
  let yearOfEra := (dayOfEra - dayOfEra / 1460 + dayOfEra / 36524 - dayOfEra / 146096) / 365
  let dayOfYear := dayOfEra - daysBeforeYear yearOfEra
  let m := (5 * dayOfYear + 2) / 153
  let y := yearOfEra + z / 146097 * 400
  ⟨if m < 10 then y else y + 1, (if m < 10 then m + 3 else m - 9).toNat,
    (dayOfYear - daysBeforeMonth m + 1).toNat⟩

end Date

end Courier.Time
