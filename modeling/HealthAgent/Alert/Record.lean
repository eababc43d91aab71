import HealthAgent.Alert.Kind
import HealthAgent.Json.Decode
/-!
# Alerts (specification §3, §B.8)

An alert is sent in an envelope that names the handler it is addressed to. The envelope of an
enclosure alert carries the field `status` with the value `update` beside the alert's own fields;
the origin itself shows only in the name of the handler.

Results:
* `Origin.parse?_name`: an origin is read back from its name.
-/
namespace HealthAgent

/-- Open-ended properties of a resource, by name. -/
abbrev Attributes := Dict String

/-- The handler that an alert is addressed to. -/
inductive Origin where
  | nodeData
  | enclosureAlert
  deriving DecidableEq, Repr

namespace Origin

def name : Origin → String
  | nodeData => "node_data"
  | enclosureAlert => "enclosure_alert"

def parse? (text : String) : Option Origin :=
  [nodeData, enclosureAlert].find? (·.name = text)

theorem parse?_name (o : Origin) : parse? o.name = some o := by
  cases o <;> decide

end Origin

/-- Where an alert comes from and when its event took place, in epoch seconds. -/
structure AlertInfo where
  siteId : UInt32
  rackId : UInt32
  nodeId : UInt32
  clusterId : UInt32
  resourceType : String
  resourceId : String
  eventTime : String
  deriving DecidableEq, Repr

structure AlertRecord where
  origin : Origin
  kind : AlertKind
  severity : Severity
  alertId : String
  hostId : String
  info : AlertInfo
  specificInfo : Attributes
  deriving DecidableEq, Repr

namespace AlertInfo

/-- The fields of an alert's common information, by name. -/
def toJson (i : AlertInfo) : Json :=
  .object [
    ("cluster_id", .ofNat i.clusterId.toNat),
    ("event_time", .string i.eventTime),
    ("node_id", .ofNat i.nodeId.toNat),
    ("rack_id", .ofNat i.rackId.toNat),
    ("resource_id", .string i.resourceId),
    ("resource_type", .string i.resourceType),
    ("site_id", .ofNat i.siteId.toNat)]

/-- Reads an alert's common information. -/
def ofJson? (j : Json) : Option AlertInfo := do
  let [some site, some rack, some node, some cluster, some type, some id, some time] ←
    j.fieldValues? ["site_id", "rack_id", "node_id", "cluster_id", "resource_type", "resource_id",
      "event_time"] | none
  return {
    siteId := ← site.word32?, rackId := ← rack.word32?, nodeId := ← node.word32?
    clusterId := ← cluster.word32?, resourceType := ← type.text?, resourceId := ← id.text?
    eventTime := ← time.text? }

end AlertInfo

namespace AlertRecord

/-- The fields of an alert, without its origin, in ascending order of their names. -/
def fields (r : AlertRecord) : List (String × Json) := [
  ("alert_id", .string r.alertId),
  ("alert_type", .string r.kind.name),
  ("host_id", .string r.hostId),
  ("info", r.info.toJson),
  ("severity", .string r.severity.name),
  ("specific_info", .ofTexts r.specificInfo)]

/-- An alert, without its origin. -/
def toJson (r : AlertRecord) : Json := .object r.fields

def body (r : AlertRecord) : Json :=
  match r.origin with
  | .nodeData => .object r.fields
  | .enclosureAlert => .object (r.fields ++ [("status", .string "update")])

/-- The request that carries an alert to its handler. -/
def envelope (r : AlertRecord) : Json :=
  .object [("sensor_request_type", .object [(r.origin.name, r.body)])]

/-- Reads an alert; without an origin it is addressed to the node data handler. -/
def ofJson? (j : Json) : Option AlertRecord := do
  let [origin?, some kind, some severity, some alertId, some hostId, some info, some specific] ←
    j.fieldValues? ["origin", "alert_type", "severity", "alert_id", "host_id", "info",
      "specific_info"] | none
  let origin ← match origin? with
    | none => some .nodeData
    | some o => (o.nameOf?).bind Origin.parse?
  return {
    origin, kind := ← kind.text?.bind AlertKind.parse?
    severity := ← severity.nameOf?.bind Severity.parse?
    alertId := ← alertId.text?, hostId := ← hostId.text?, info := ← AlertInfo.ofJson? info
    specificInfo := ← specific.texts? }

end AlertRecord
end HealthAgent
