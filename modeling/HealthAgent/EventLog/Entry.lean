import HealthAgent.Number.Digits
import HealthAgent.SourceError
import HealthAgent.Text.Blank
import HealthAgent.Text.Cut
import HealthAgent.Text.Quoted
/-!
# Entries of the system event log (specification §3)

A line of the log has at least six fields between bars: the record number in hexadecimal, date,
time, the label of the device, the event, and whether the condition began or ended. Blanks around
a field and fields past the sixth do not count. A label may end in the number of the sensor, as in
`Fan #0x30`.

Results:
* `Assertion.parse?_name`: a status is read back from its name.
-/
namespace HealthAgent
open Text

/-- Whether the condition of an entry began or ended. -/
inductive Assertion where
  | asserted | deasserted
  deriving DecidableEq, Repr

namespace Assertion

def name : Assertion → String
  | asserted => "Asserted"
  | deasserted => "Deasserted"

/-- The status with a name, which may stand between blanks. -/
def parse? (text : String) : Option Assertion :=
  [asserted, deasserted].find? (·.name = text.trimBlank)

def opposite : Assertion → Assertion
  | asserted => deasserted
  | deasserted => asserted

theorem parse?_name (a : Assertion) : parse? a.name = some a := by
  cases a <;> decide

end Assertion

structure LogEntry where
  /-- The record number within the log. -/
  index : UInt64
  date : String
  time : String
  /-- The whole label, such as `Fan #0x30`. -/
  deviceLabel : String
  /-- The label without the sensor number, such as `Fan`. -/
  deviceType : String
  /-- The sensor number of the label in small hexadecimal digits. -/
  deviceNumber : Option String
  description : String
  status : Assertion
  deriving DecidableEq, Repr

namespace LogEntry

/-- Why a line is no entry. -/
inductive LineError where
  | fieldCount (count : Nat) (line : String)
  | index (field : String)
  | status (field : String)
  deriving DecidableEq, Repr

def LineError.message : LineError → String
  | fieldCount count line => s!"expected 6 fields in SEL line, got {count}: {line.quotedText}"
  | index field => s!"invalid SEL index {field.quotedText}"
  | status field => s!"invalid SEL status {field.quotedText}"

def LineError.toSourceError (e : LineError) : SourceError := .malformed e.message

/-- The hexadecimal digits of a record number, without a leading `0x` or `0X`. -/
def indexDigits (field : List Char) : List Char :=
  let field := trim field
  match dropLead? ['0', 'x'] field with
  | some ds => ds
  | none => (dropLead? ['0', 'X'] field).getD field

def parseIndex? (field : List Char) : Option UInt64 :=
  (Number.read 16 (indexDigits field)).toOption.map Nat.toUInt64

/-- The text before the sensor number of a label. -/
def numberMark : List Char := [' ', '#', '0', 'x']

/-- The device type and the sensor number of a label. -/
def splitLabel (label : List Char) : List Char × Option (List Char) :=
  match cutAtLast numberMark label with
  | some (type, number) =>
    if !number.isEmpty && number.all Number.isHexDigit then (trim type, some (lower number))
    else (trim label, none)
  | none => (trim label, none)

def parse (line : String) : Except LineError LogEntry :=
  match (fields '|' line.toList).map trim with
  | f₀ :: f₁ :: f₂ :: f₃ :: f₄ :: f₅ :: _ =>
    match parseIndex? f₀ with
    | none => .error (.index (.ofList f₀))
    | some index =>
      match Assertion.parse? (.ofList f₅) with
      | none => .error (.status (.ofList f₅))
      | some status =>
        let (type, number) := splitLabel f₃
        .ok {
          index, status, date := .ofList f₁, time := .ofList f₂, deviceLabel := .ofList f₃
          deviceType := .ofList type, deviceNumber := number.map .ofList
          description := .ofList f₄ }
  | few => .error (.fieldCount few.length line)

/-- The entries of a text's lines, in order; lines that are no entries are skipped. -/
def parseLines (lines : List String) : List LogEntry :=
  lines.filterMap fun line => if line.isAllBlank then none else (parse line).toOption

end LogEntry
end HealthAgent
