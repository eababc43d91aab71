/-!
# Kinds and severities of alerts (specification §3, §4.4)

Results:
* `AlertKind.parse?_name`: every kind is read back from its name.
* `severityOfName_name`: the severity of a name agrees with the severity of the kind.
-/
namespace HealthAgent

/-- The direction in which a reading crossed a threshold. -/
inductive Direction where
  | low | high
  deriving DecidableEq, Repr

inductive AlertKind where
  | fault
  | faultResolved
  | missing
  | insertion
  | thresholdBreached (direction : Direction)
  deriving DecidableEq, Repr

/-- How serious an alert is, from the least serious on. -/
inductive Severity where
  | informational | warning | error | critical
  deriving DecidableEq, Repr

namespace AlertKind

def name : AlertKind → String
  | fault => "fault"
  | faultResolved => "fault_resolved"
  | missing => "missing"
  | insertion => "insertion"
  | thresholdBreached .low => "threshold_breached:low"
  | thresholdBreached .high => "threshold_breached:high"

def all : List AlertKind :=
  [fault, faultResolved, missing, insertion, thresholdBreached .low, thresholdBreached .high]

def parse? (text : String) : Option AlertKind :=
  all.find? (·.name = text)

/-- The usual severity of a kind. -/
def severity : AlertKind → Severity
  | fault | missing => .critical
  | faultResolved | insertion => .informational
  | thresholdBreached _ => .warning

theorem parse?_name (k : AlertKind) : parse? k.name = some k := by
  rcases k with _ | _ | _ | _ | (_ | _) <;> decide

end AlertKind

namespace Severity

def name : Severity → String
  | informational => "informational"
  | warning => "warning"
  | error => "error"
  | critical => "critical"

def all : List Severity := [informational, warning, error, critical]

def parse? (text : String) : Option Severity :=
  all.find? (·.name = text)

def rank : Severity → Nat
  | informational => 0
  | warning => 1
  | error => 2
  | critical => 3

instance : Ord Severity := ⟨fun a b => compare a.rank b.rank⟩

theorem parse?_name (s : Severity) : parse? s.name = some s := by
  cases s <;> decide

end Severity

/-- The severity that goes with the name of a kind; informational for any other text. -/
def severityOfName (text : String) : Severity :=
  ((AlertKind.parse? text).map AlertKind.severity).getD .informational

theorem severityOfName_name (k : AlertKind) : severityOfName k.name = k.severity := by
  simp [severityOfName, AlertKind.parse?_name]

end HealthAgent
