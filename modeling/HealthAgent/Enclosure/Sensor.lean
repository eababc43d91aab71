import HealthAgent.Alert.Draft
import HealthAgent.Config.Basic
import HealthAgent.Enclosure.FaultStore
/-!
# The sensor of a category of units (specification §4.3, §B.7)

Each cycle fetches the records of all units of a category and compares their health with what is
remembered. Every change raises an alert; after each alert the memory is saved. Records that tell no
status are skipped.

Results:
* `takeInAll_append`: the statuses of a snapshot are taken in one after the other.
-/
namespace HealthAgent

namespace FruKind

/-- The resource of the management service that lists the units. -/
def apiPath : FruKind → String
  | controller => "/api/show/controllers"
  | psu => "/api/show/power-supplies"
  | fan => "/api/show/fan-modules"
  | disk => "/api/show/disks"

/-- The field of the service's answer that holds the list. -/
def responseKey : FruKind → String
  | controller => "controllers"
  | psu => "power-supplies"
  | fan => "fan-modules"
  | disk => "drives"

/-- The type of resource that alerts are about. -/
def resourceType : FruKind → String
  | controller => "enclosure:fru:controller"
  | psu => "enclosure:fru:psu"
  | fan => "enclosure:fru:fan"
  | disk => "enclosure:fru:disk"

/-- The name of the folder that holds the state. -/
def folderName : FruKind → String
  | controller => "controllers"
  | psu => "psus"
  | fan => "fans"
  | disk => "disks"

/-- The name of the file that holds the fault map. -/
def fileName : FruKind → String
  | controller => "controllerdata.json"
  | psu => "psudata.json"
  | fan => "fandata.json"
  | disk => "diskdata.json"

end FruKind

structure FruSensor where
  kind : FruKind
  store : FaultStore
  faults : FaultMap
  context : AlertContext

namespace FruSensor

def nameOf (kind : FruKind) : String := kind.name ++ "_fru"

/-- Opens the fault map in a folder. -/
def start (kind : FruKind) (folder : String) (context : AlertContext) :
    SensorProgram (Except StoreError FruSensor) := do
  match ← FaultStore.openIn folder kind.fileName with
  | .error e => return .error e
  | .ok store => return (← store.load).map fun faults => ⟨kind, store, faults, context⟩

def statuses (records : List Json) : List FruStatus :=
  records.filterMap fun record => (FruStatus.ofRecord record).toOption

def draftOf (k : FruKind) (status : FruStatus) (kind : AlertKind) (time : String) :
    AlertDraft where
  origin := .enclosureAlert
  resourceType := k.resourceType
  resourceId := status.resourceId
  kind := kind
  severity := kind.severity
  eventTime := time
  specificInfo := status.attributes
  dynamicInfo := ∅
  terminal := true

/-- Takes in one status: delivers the alert for a change and saves the memory. -/
def takeIn (s : FruSensor) (status : FruStatus) : SensorProgram FruSensor :=
  match s.faults.observe status with
  | (_, none) => .done s
  | (faults, some kind) => do
    let time ← Request.clock.ask
    let salt ← Request.salt.ask
    let _ ← (Request.deliver (s.context.assemble salt (draftOf s.kind status kind time))).ask
    let _ ← s.store.save faults
    return { s with faults }

def takeInAll : FruSensor → List FruStatus → SensorProgram FruSensor
  | s, [] => .done s
  | s, status :: rest => do
    let s ← s.takeIn status
    takeInAll s rest

def poll (s : FruSensor) : SensorProgram (Outcome × FruSensor) := do
  match ← (Request.records s.kind.apiPath s.kind.responseKey).ask with
  | .error e => return (.ofResult (.error e), s)
  | .ok records => return (.proceed, ← s.takeInAll (statuses records))

theorem takeInAll_append (s : FruSensor) (xs ys : List FruStatus) :
    s.takeInAll (xs ++ ys) = (s.takeInAll xs).bind (·.takeInAll ys) := by
  induction xs generalizing s with
  | nil => rfl
  | cons x xs ih =>
    simp only [List.cons_append, takeInAll, Program.bind_eq, Program.bind_assoc]
    congr 1
    funext s'
    exact ih s'

end FruSensor
end HealthAgent
