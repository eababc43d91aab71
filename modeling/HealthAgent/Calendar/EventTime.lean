import HealthAgent.Calendar.Zone
import HealthAgent.Text.Blank
/-!
# The time of a log entry (specification §B.6)

The log gives date and time as `MM/DD/YYYY` and `HH:MM:SS` in local time. Blanks may stand before
each number. Month, day, hour, minute and second take one or two digits, the year up to four, or any
number of digits after a sign. A second 60 counts as second 59.
-/
namespace HealthAgent.Calendar
open Text

/-- Reads a number of at most `width` digits behind blanks. -/
def readNumber? (width : Nat) (cs : List Char) : Option (Nat × List Char) :=
  let cs := trimStart cs
  let ds := (cs.take width).takeWhile Char.isDigit
  if ds.isEmpty then none
  else some (ds.foldl (fun n c => n * 10 + (c.toNat - 48)) 0, cs.drop ds.length)

/-- Reads a year behind blanks; one with a sign may have any number of digits. -/
def readYear? (cs : List Char) : Option (Int × List Char) :=
  match trimStart cs with
  | '-' :: r => if r.head?.any Char.isDigit then
      (readNumber? r.length r).map fun (n, rest) => (-(n : Int), rest) else none
  | '+' :: r => if r.head?.any Char.isDigit then
      (readNumber? r.length r).map fun (n, rest) => ((n : Int), rest) else none
  | r => (readNumber? 4 r).map fun (n, rest) => ((n : Int), rest)

/-- Reads a number within bounds. -/
def readWithin? (lo hi : Nat) (cs : List Char) : Option (Nat × List Char) :=
  (readNumber? 2 cs).filter fun (n, _) => lo ≤ n && n ≤ hi

/-- Drops the separator `c`. -/
def dropMark? (c : Char) : List Char → Option (List Char)
  | c' :: rest => if c' = c then some rest else none
  | [] => none

/-- Reads a date and a time of day. -/
def Local.parse? (cs : List Char) : Option Local := do
  let (month, cs) ← readWithin? 1 12 cs
  let (day, cs) ← readWithin? 1 31 (← dropMark? '/' cs)
  let (year, cs) ← readYear? (← dropMark? '/' cs)
  let (hour, cs) ← readWithin? 0 23 cs
  let (minute, cs) ← readWithin? 0 59 (← dropMark? ':' cs)
  let (second, cs) ← readWithin? 0 60 (← dropMark? ':' cs)
  if cs.isEmpty ∧ -262143 ≤ year ∧ year ≤ 262142 ∧ day ≤ daysInMonth year month then
    return ⟨year, month, day, hour, minute, min second 59⟩
  else none

/-- The instant of a log entry's date and time in a zone, in seconds from the start of 1970; none
if they do not tell one. -/
def eventTime? (zone : Zone) (date time : String) : Option Int :=
  (Local.parse? (trim date.toList ++ ' ' :: trim time.toList)).bind zone.instant?

end HealthAgent.Calendar
