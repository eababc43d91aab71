import HealthAgent.Alert.Kind
import HealthAgent.EventLog.Entry
/-!
# Devices that raise alerts (specification §4.3, §B.5)

Four device types raise alerts. The events of a fan are threshold crossings, told by four words. The
events of the other types are listed; an event that is not listed with its status raises no alert.

Results:
* `Device.parse?_name`: a device type is read back from its name.
-/
namespace HealthAgent
open Text

/-- A device type whose log entries raise alerts. -/
inductive Device where
  | fan | powerSupply | powerUnit | driveSlot
  deriving DecidableEq, Repr

/-- A row of an event list: the event, its status, and the alert it raises. -/
structure EventRow where
  description : String
  status : Assertion
  kind : AlertKind
  severity : Severity
  deriving DecidableEq, Repr

/-- The rows of an event that begins a condition and, with the opposite status, ends it. -/
def beginsAndEnds (description : String) (severity : Severity) : List EventRow := [
  ⟨description, .asserted, .fault, severity⟩,
  ⟨description, .deasserted, .faultResolved, .informational⟩]

def powerSupplyEvents : List EventRow :=
  beginsAndEnds "Config Error" .error ++
  beginsAndEnds "Failure detected ()" .error ++
  beginsAndEnds "Failure detected" .error ++
  beginsAndEnds "Power Supply AC lost" .critical ++
  beginsAndEnds "Power Supply Inactive" .critical ++
  beginsAndEnds "Predictive failure" .warning ++ [
  ⟨"Presence detected", .asserted, .insertion, .informational⟩,
  ⟨"Presence detected", .deasserted, .missing, .critical⟩]

def powerUnitEvents : List EventRow := [
  ⟨"240VA power down", .asserted, .fault, .critical⟩,
  ⟨"240VV power down", .deasserted, .faultResolved, .informational⟩] ++
  beginsAndEnds "AC lost" .critical ++
  beginsAndEnds "Failure detected" .critical ++
  beginsAndEnds "Power off/down" .critical ++
  beginsAndEnds "Soft-power control failure" .warning ++ [
  ⟨"Fully Redundant", .asserted, .faultResolved, .informational⟩,
  ⟨"Fully Redundant", .deasserted, .fault, .warning⟩] ++
  beginsAndEnds "Non-Redundant: Insufficient Resources" .critical ++ [
  ⟨"Non-Redundant: Sufficient from Insufficient", .asserted, .fault, .warning⟩,
  ⟨"Non-Redundant: Sufficient from Insufficient", .deasserted, .fault, .warning⟩,
  ⟨"Non-Redundant: Sufficient from Redundant", .asserted, .fault, .warning⟩,
  ⟨"Non-Redundant: Sufficient from Redundant", .deasserted, .fault, .informational⟩] ++
  beginsAndEnds "Redundancy Degraded" .warning ++ [
  ⟨"Redundancy Degraded from Fully Redundant", .asserted, .fault, .warning⟩,
  ⟨"Redundancy Degraded from Fully Redundant", .deasserted, .faultResolved, .warning⟩,
  ⟨"Redundancy Degraded from Non-Redundant", .asserted, .fault, .critical⟩,
  ⟨"Redundancy Degraded from Non-Redundant", .deasserted, .faultResolved, .warning⟩] ++
  beginsAndEnds "Redundancy Lost" .warning

def driveSlotEvents : List EventRow := [
  ⟨"Drive Present", .asserted, .insertion, .informational⟩,
  ⟨"Drive Present", .deasserted, .missing, .critical⟩]

/-- The bound, level and direction of a threshold crossing, in small letters, as in
`lower critical going low`. -/
structure Crossing where
  bound : String
  level : String
  direction : Direction
  deriving DecidableEq, Repr

/-- Reads the description of a threshold crossing, in any letter case and spacing. -/
def Crossing.parse? (description : String) : Option Crossing :=
  match (words description.toList).map fun w => String.ofList (lower w) with
  | [bound, level, going, direction] =>
    if ["lower", "upper"].contains bound &&
        ["non-critical", "critical", "non-recoverable"].contains level && going = "going" then
      match direction with
      | "low" => some ⟨bound, level, .low⟩
      | "high" => some ⟨bound, level, .high⟩
      | _ => none
    else none
  | _ => none

namespace Device

/-- Every device type, in the order in which their sensors are listed. -/
def all : List Device := [fan, powerSupply, powerUnit, driveSlot]

/-- The name of a device type in log labels and in requests for its sensors. -/
def name : Device → String
  | fan => "Fan"
  | powerSupply => "Power Supply"
  | powerUnit => "Power Unit"
  | driveSlot => "Drive Slot / Bay"

def parse? (text : String) : Option Device :=
  all.find? (·.name = text)

/-- The type of resource that alerts of a device are about. -/
def resourceType : Device → String
  | fan => "node:fru:fan"
  | powerSupply | powerUnit => "node:fru:psu"
  | driveSlot => "node:fru:disk"

def events : Device → List EventRow
  | fan => []
  | powerSupply => powerSupplyEvents
  | powerUnit => powerUnitEvents
  | driveSlot => driveSlotEvents

/-- The kind and severity of the alert that an event raises, if it raises one. -/
def classify (d : Device) (description : String) (status : Assertion) :
    Option (AlertKind × Severity) :=
  match d with
  | fan => (Crossing.parse? description).map fun c =>
      (.thresholdBreached c.direction, (AlertKind.thresholdBreached c.direction).severity)
  | listed => (listed.events.find? fun row =>
      row.description = description && row.status = status).map fun row => (row.kind, row.severity)

theorem parse?_name (d : Device) : parse? d.name = some d := by
  cases d <;> decide

end Device
end HealthAgent
