import HealthAgent.Alert.Record
import HealthAgent.Json.Printer
import HealthAgent.SourceError
import HealthAgent.Text.Blank
import HealthAgent.Text.Quoted
/-!
# The status of an enclosure's units (specification §4.3, §B.7)

A record of the management service tells the durable identity of a unit, its health and its
installation status. All of its fields, as texts, become attributes.

Results:
* `Health.parse?_name`: a health is read back from its name.
-/
namespace HealthAgent

inductive Health where
  | ok | degraded | fault
  deriving DecidableEq, Repr

namespace Health

def all : List Health := [ok, degraded, fault]

def name : Health → String
  | ok => "ok"
  | degraded => "degraded"
  | fault => "fault"

def ofName? (text : String) : Option Health := all.find? (·.name = text)

/-- The health that a text names, in any letter case and between blanks. -/
def parse? (text : String) : Option Health :=
  ofName? text.trimBlank.lowerAscii

theorem parse?_name (h : Health) : parse? h.name = some h := by
  cases h <;> decide

end Health

structure FruStatus where
  resourceId : String
  health : Health
  /-- The installation status in small letters, such as `operational`. -/
  status : String
  attributes : Attributes
  deriving DecidableEq, Repr

namespace FruStatus

/-- Whether the status tells that the unit is physically absent. -/
def isNotInstalled (s : FruStatus) : Bool :=
  s.status.toList.map (fun c => if c = '-' then ' ' else c) = "not installed".toList

/-- Why a record tells no status. -/
inductive RecordError where
  | notObject (record : Json)
  | missingField (name : String)
  | health (text resourceId : String)
  deriving Repr

def RecordError.message : RecordError → String
  | notObject record => s!"snapshot record is not an object: {record.compress}"
  | missingField name => s!"missing `{name}` field"
  | health text resourceId => s!"unrecognised health {text.quotedText} for {resourceId}"

def RecordError.toSourceError (e : RecordError) : SourceError := .malformed e.message

/-- A field's value as the text of an attribute. -/
def attributeText : Json → String
  | .string s => s
  | other => other.compress

def attributesOf (fields : List (String × Json)) : Attributes :=
  .ofList (fields.map fun (name, value) => (name, attributeText value))

def textField (record : Json) (name : String) : Except RecordError String :=
  match (record.field? name).bind Json.text? with
  | some s => .ok s
  | none => .error (.missingField name)

def ofRecord (record : Json) : Except RecordError FruStatus :=
  match record with
  | .object fields => do
    let resourceId ← textField record "durable-id"
    let healthText ← textField record "health"
    match Health.parse? healthText with
    | none => .error (.health healthText resourceId)
    | some health =>
      let status ← textField record "status"
      .ok ⟨resourceId, health, status.trimBlank.lowerAscii, attributesOf fields⟩
  | other => .error (.notObject other)

end FruStatus
end HealthAgent
