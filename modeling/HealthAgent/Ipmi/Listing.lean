import HealthAgent.Dict
import HealthAgent.Number.Digits
import HealthAgent.Text.Cut
import HealthAgent.Text.Lines
/-!
# Sensor listings and log statistics (specification §B.3)

A sensor listing has one row per sensor, with the sensor's name and number in its first two fields,
as in `Sys Fan 2B | 33h | ok | 29.4 | 5332 RPM`. The statistics of the log are lines `key : value`.
-/
namespace HealthAgent.Ipmi
open Text

/-- A text without letters `h` and `H` at its end. -/
def dropUnit (cs : List Char) : List Char :=
  (cs.reverse.dropWhile fun c => c = 'h' || c = 'H').reverse

/-- The number of a number column in small hexadecimal digits. -/
def sensorNumber? (column : List Char) : Option (List Char) :=
  let digits := lower (dropUnit column)
  if !digits.isEmpty && digits.all Number.isHexDigit then some digits else none

/-- The sensor name and number of a row of a listing. -/
def parseRow? (row : List Char) : Option (String × String) :=
  match (fields '|' row).map trim with
  | name :: column :: _ =>
    if name.isEmpty then none
    else (sensorNumber? column).map fun number => (.ofList name, .ofList number)
  | _ => none

/-- The sensor names and numbers of a listing, in order. -/
def parseListing (text : String) : List (String × String) :=
  (lines text.toList).filterMap parseRow?

/-- The statistics of the log; of two lines with one key the later counts. -/
def parseInfo (text : String) : Dict String :=
  .ofList ((lines text.toList).filterMap fun line =>
    (cutAt ':' line).map fun (key, value) => (.ofList (trim key), .ofList (trim value)))

end HealthAgent.Ipmi
