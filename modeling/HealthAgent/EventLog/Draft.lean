import HealthAgent.Alert.Draft
import HealthAgent.Calendar.EventTime
import HealthAgent.EventLog.Device
import HealthAgent.Ipmi.Properties
import HealthAgent.Sensor.Request
/-!
# From a log entry to a draft (specification §B.5)

An entry whose event is classified is drafted with the properties of its sensor. A fan's alert
keeps the thresholds, a power supply's all static properties and the sensor's identity, a drive
slot's the static properties, or marks for a sensor that tells nothing. If the description of the
sensor cannot be had, the properties are empty; only a missing management tool prevents the draft.

Results:
* `describe_eq`: the description of a sensor is one request, whose reply is read.
* `read_eq_error`: only a terminal failure is no description.
-/
namespace HealthAgent

/-- The thresholds that the alert of a fan carries. -/
def fanThresholdNames : List String := [
  "Lower Non-Recoverable", "Upper Non-Recoverable", "Lower Critical", "Lower Non-Critical",
  "Upper Critical"]

/-- The mark for a property that is not known. -/
def notAvailable : String := "N/A"

/-- The name of the property that tells the type of a discrete sensor. -/
def sensorTypeName : String := "Sensor Type (Discrete)"

namespace Device

/-- Asks for the description of a sensor; a failure that is not terminal leaves it unknown. -/
def describe (d : Device) (sensorId : String) :
    SensorProgram (Except SourceError SensorProps) := do
  let (request, read) := match d with
    | .fan | .driveSlot => (IpmiRequest.sensor sensorId, SensorProps.ofSensorText)
    | .powerSupply | .powerUnit => (IpmiRequest.record sensorId, SensorProps.ofRecordText)
  match ← (Request.ipmi request).ask with
  | .ok text => return .ok (read text)
  | .error e => return if e.isTerminal then .error e else .ok .empty

/-- The request for the description of a sensor. -/
def request (d : Device) (sensorId : String) : IpmiRequest :=
  match d with
  | .fan | .driveSlot => .sensor sensorId
  | .powerSupply | .powerUnit => .record sensorId

def propsOf (d : Device) (text : String) : SensorProps :=
  match d with
  | .fan | .driveSlot => .ofSensorText text
  | .powerSupply | .powerUnit => .ofRecordText text

/-- The properties that the reply to the request for a description tells. -/
def read (d : Device) : Except SourceError String → Except SourceError SensorProps
  | .ok text => .ok (d.propsOf text)
  | .error e => if e.isTerminal then .error e else .ok .empty

/-- The properties of a sensor that an alert of its device carries. -/
def keptProps (d : Device) (p : SensorProps) : Attributes :=
  match d with
  | .fan => fanThresholdNames.foldl (fun a name => SensorProps.named name (p.staticProps.get? name) a) ∅
  | .powerSupply | .powerUnit =>
    SensorProps.named SensorProps.entityIdName p.entityId
      (SensorProps.named SensorProps.sensorIdName p.sensorId p.staticProps)
  | .driveSlot =>
    if p.isEmpty then
      (Dict.empty.insert SensorProps.statesAssertedName notAvailable).insert sensorTypeName
        notAvailable
    else p.staticProps

/-- The resource that an alert is about. -/
def resourceId (d : Device) (entry : LogEntry) (sensorId : String) : String :=
  match d with
  | .fan => sensorId
  | _ => entry.deviceLabel

def eventText (d : Device) (entry : LogEntry) : String :=
  match d with
  | .driveSlot => entry.description ++ " - " ++ entry.status.name
  | _ => entry.description

def draftOf (d : Device) (entry : LogEntry) (sensorId : String) (terminal : Bool)
    (kind : AlertKind) (severity : Severity) (eventTime : String) (p : SensorProps) :
    AlertDraft where
  origin := .nodeData
  resourceType := d.resourceType
  resourceId := d.resourceId entry sensorId
  kind := kind
  severity := severity
  eventTime := eventTime
  specificInfo :=
    ((d.keptProps p).insert "fru_id" entry.deviceLabel).insert "event" (d.eventText entry)
  dynamicInfo := p.dynamic
  terminal := terminal

/-- The event time of an entry, or the present time if the entry does not tell one. -/
def eventTimeOf (zone : Calendar.Zone) (entry : LogEntry) : SensorProgram String :=
  match Calendar.eventTime? zone entry.date entry.time with
  | some t => .done (toString t)
  | none => Request.clock.ask

/-- Drafts the alert for an entry; none for an event that raises no alert. -/
def draft (d : Device) (zone : Calendar.Zone) (entry : LogEntry) (sensorId : String)
    (terminal : Bool) : SensorProgram (Except SourceError (Option AlertDraft)) := do
  match d.classify entry.description entry.status with
  | none => return .ok none
  | some (kind, severity) =>
    match ← d.describe sensorId with
    | .error e => return .error e
    | .ok p =>
      let time ← eventTimeOf zone entry
      return .ok (some (d.draftOf entry sensorId terminal kind severity time p))

theorem describe_eq (d : Device) (sensorId : String) : d.describe sensorId =
    .call (.ipmi (d.request sensorId)) fun reply => .done (d.read reply) := by
  cases d <;> exact congrArg (Program.call _) (funext fun reply => by cases reply <;> rfl)

theorem read_eq_error {d : Device} {reply : Except SourceError String} {e : SourceError}
    (h : d.read reply = .error e) : reply = .error e ∧ e.isTerminal = true := by
  cases reply with
  | ok text => cases h
  | error e' =>
    rw [read] at h
    split at h
    · next hterminal =>
      cases h
      exact ⟨rfl, hterminal⟩
    · cases h

end Device
end HealthAgent
