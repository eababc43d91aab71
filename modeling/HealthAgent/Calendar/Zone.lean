import HealthAgent.Calendar.Date
/-!
# Time zones

A zone has a standard offset from the zone zero and may have daylight saving time, which begins and
ends every year on a given day of a week of a month, the beginning before the end. A local time
that is skipped when it begins stands for no instant. One that comes twice when it ends is read as
standard time.

Zones are written as in the environment variable `TZ`: `EST5EDT,M3.2.0,M11.1.0` is five hours
behind zone zero, with daylight saving time from the second Sunday of March to the first Sunday of
November.
-/
namespace HealthAgent.Calendar

/-- A day of the year on which clocks change, and the seconds of that day after which they do. -/
structure ChangeRule where
  month : Nat
  /-- The week of the month, 5 for the last one. -/
  week : Nat
  /-- The day of the week, 0 for Sunday. -/
  weekday : Nat
  timeOfDay : Int
  deriving DecidableEq, Repr

/-- Daylight saving time: its offset, its beginning in standard time, its end in its own time. -/
structure Daylight where
  offset : Int
  begins : ChangeRule
  ends : ChangeRule
  deriving DecidableEq, Repr

/-- A time zone; offsets are in seconds ahead of zone zero. -/
structure Zone where
  offset : Int
  daylight : Option Daylight
  deriving DecidableEq, Repr

/-- The local seconds at which clocks change in a year. -/
def ChangeRule.seconds (r : ChangeRule) (year : Int) : Int :=
  let first := dayNumber year r.month 1
  let day := first + ((r.weekday + 7 - Calendar.weekday first) % 7 : Nat) + 7 * ((r.week : Int) - 1)
  let day := if day ≥ first + daysInMonth year r.month then day - 7 else day
  day * 86400 + r.timeOfDay

namespace Zone

/-- The zone zero. -/
def utc : Zone := ⟨0, none⟩

/-- The offset that holds at a local time; none if clocks skip it. -/
def offsetAt? (z : Zone) (t : Local) : Option Int :=
  match z.daylight with
  | none => some z.offset
  | some d =>
    let s := t.seconds
    let gain := d.offset - z.offset
    let begins := d.begins.seconds t.year
    let ends := d.ends.seconds t.year
    if s ≤ begins then some z.offset
    else if s < begins + gain then none
    else if s < ends - gain then some d.offset
    else some z.offset

/-- The earliest and the latest instant that are told apart. -/
def instantRange : Int × Int :=
  (dayNumber (-262143) 1 1 * 86400, (dayNumber 262142 12 31 + 1) * 86400 - 1)

/-- The instant of a local time, in seconds from the start of 1970. -/
def instant? (z : Zone) (t : Local) : Option Int := do
  let instant := t.seconds - (← z.offsetAt? t)
  if instantRange.1 ≤ instant ∧ instant ≤ instantRange.2 then some instant else none

/-- Reads digits from the front of a text. -/
def readNat? (cs : List Char) : Option (Nat × List Char) :=
  let ds := cs.takeWhile Char.isDigit
  if ds.isEmpty then none
  else some (ds.foldl (fun n c => n * 10 + (c.toNat - 48)) 0, cs.dropWhile Char.isDigit)

/-- Reads hours, minutes and seconds, of which the last two may be missing, as seconds. -/
def readClock? (cs : List Char) : Option (Int × List Char) := do
  let (sign, cs) := match cs with
    | '-' :: r => (-1, r)
    | '+' :: r => (1, r)
    | r => ((1 : Int), r)
  let (h, cs) ← readNat? cs
  let (m, cs) ← match cs with
    | ':' :: r => readNat? r
    | r => some (0, r)
  let (s, cs) ← match cs with
    | ':' :: r => readNat? r
    | r => some (0, r)
  return (sign * (h * 3600 + m * 60 + s : Nat), cs)

/-- Drops the name of a zone: letters, or anything between angle brackets. -/
def dropName? : List Char → Option (List Char)
  | '<' :: cs =>
    match cs.dropWhile (· ≠ '>') with
    | '>' :: rest => some rest
    | _ => none
  | cs => if (cs.takeWhile Char.isAlpha).isEmpty then none else some (cs.dropWhile Char.isAlpha)

/-- Reads a rule such as `M3.2.0` or `M3.2.0/2`. -/
def readRule? : List Char → Option (ChangeRule × List Char)
  | 'M' :: cs => do
    let (month, '.' :: cs) ← readNat? cs | none
    let (week, '.' :: cs) ← readNat? cs | none
    let (weekday, cs) ← readNat? cs
    let (time, cs) ← match cs with
      | '/' :: r => readClock? r
      | r => some (7200, r)
    return (⟨month, week, weekday, time⟩, cs)
  | _ => none

/-- Reads a zone in the form of the environment variable `TZ`. -/
def parse? (text : String) : Option Zone := do
  let cs ← dropName? text.toList
  let (behind, cs) ← readClock? cs
  if cs.isEmpty then
    return ⟨-behind, none⟩
  let cs ← dropName? cs
  let (daylightBehind, ',' :: cs) ← (match cs with
    | ',' :: r => some (behind - 3600, ',' :: r)
    | r => readClock? r) | none
  let (begins, ',' :: cs) ← readRule? cs | none
  let (ends, []) ← readRule? cs | none
  return ⟨-behind, some ⟨-daylightBehind, begins, ends⟩⟩

end Zone
end HealthAgent.Calendar
