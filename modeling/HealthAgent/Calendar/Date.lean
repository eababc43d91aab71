/-!
# Dates of the Gregorian calendar

Days are counted from 1 January 1970. The count goes over years that begin in March, so that the
leap day is the last day of its year, and over cycles of 400 years.
-/
namespace HealthAgent.Calendar

def isLeapYear (year : Int) : Bool :=
  year % 4 = 0 && (year % 100 ≠ 0 || year % 400 = 0)

/-- The number of days of a month; none for a number that is no month. -/
def daysInMonth (year : Int) (month : Nat) : Nat :=
  match month with
  | 1 | 3 | 5 | 7 | 8 | 10 | 12 => 31
  | 4 | 6 | 9 | 11 => 30
  | 2 => if isLeapYear year then 29 else 28
  | _ => 0

def dayNumber (year : Int) (month day : Nat) : Int :=
  let marchYear := if month ≤ 2 then year - 1 else year
  let cycle := marchYear.fdiv 400
  let yearOfCycle := marchYear - cycle * 400
  let monthFromMarch : Int := (month + 9) % 12
  let dayOfYear := (153 * monthFromMarch + 2) / 5 + day - 1
  let dayOfCycle := yearOfCycle * 365 + yearOfCycle / 4 - yearOfCycle / 100 + dayOfYear
  cycle * 146097 + dayOfCycle - 719468

/-- The day of the week of a day, 0 for Sunday. -/
def weekday (day : Int) : Nat :=
  ((day + 4) % 7).toNat

/-- A date and a time of day, without a time zone. -/
structure Local where
  year : Int
  month : Nat
  day : Nat
  hour : Nat
  minute : Nat
  second : Nat
  deriving DecidableEq, Repr

/-- The seconds from the start of 1970 to a local time, as if it were a time of zone zero. -/
def Local.seconds (t : Local) : Int :=
  dayNumber t.year t.month t.day * 86400 + (t.hour * 3600 + t.minute * 60 + t.second : Nat)

end HealthAgent.Calendar
