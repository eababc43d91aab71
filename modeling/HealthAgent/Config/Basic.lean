import HealthAgent.Json.Decode
/-!
# The configuration of the agent (specification §6, §A.3)

Results:
* `FruKind.parse?_name`: a category is read back from its name.
-/
namespace HealthAgent

/-- A category of replaceable units of the enclosure. -/
inductive FruKind where
  | controller | psu | fan | disk
  deriving DecidableEq, Repr

namespace FruKind

def all : List FruKind := [controller, psu, fan, disk]

def name : FruKind → String
  | controller => "controller"
  | psu => "psu"
  | fan => "fan"
  | disk => "disk"

def parse? (text : String) : Option FruKind :=
  all.find? (·.name = text)

/-- The name of a category in messages. -/
def title : FruKind → String
  | controller => "Controller"
  | psu => "Psu"
  | fan => "Fan"
  | disk => "Disk"

theorem parse?_name (k : FruKind) : parse? k.name = some k := by
  cases k <;> decide

end FruKind

/-- The identity of the agent's place, and the folder of its state. -/
structure SystemInformation where
  siteId : UInt32
  rackId : UInt32
  nodeId : UInt32
  clusterId : UInt32
  dataPath : String
  deriving DecidableEq, Repr

/-- How the system event log is followed. -/
structure LogConfig where
  enabled : Bool
  pollIntervalSeconds : UInt64
  /-- The percentage in use above which the log is cleared. -/
  usageThreshold : UInt32
  /-- The least time between two queries of the usage. -/
  queryIntervalSeconds : UInt64
  /-- The bytes that an entry is taken to use if the controller does not tell the percentage. -/
  entrySizeBytes : UInt64
  useSudo : Bool
  deriving DecidableEq, Repr

/-- How the enclosure's management service is asked. -/
structure EnclosureConfig where
  enabled : Bool
  apiUrl : String
  pollIntervalSeconds : UInt64
  requestTimeoutSeconds : UInt64
  frus : List FruKind
  deriving DecidableEq, Repr

/-- Where alerts go. -/
structure OutputConfig where
  /-- The file that alerts are appended to; the standard output if there is none. -/
  alertsFile : Option String
  /-- Whether every alert is also logged as an important event. -/
  iemMirror : Bool
  deriving DecidableEq, Repr

structure Config where
  systemInformation : SystemInformation
  sel : LogConfig
  enclosure : EnclosureConfig
  output : OutputConfig
  deriving DecidableEq, Repr

def SystemInformation.default : SystemInformation := ⟨0, 0, 0, 0, "/var/hwwatch/data"⟩

def LogConfig.default : LogConfig :=
  ⟨true, 30, 90, 300, 16, true⟩

def EnclosureConfig.default : EnclosureConfig :=
  ⟨true, "http://127.0.0.1", 10, 30, FruKind.all⟩

def OutputConfig.default : OutputConfig := ⟨none, true⟩

namespace Config

/-- The configuration without any settings. -/
def default : Config := ⟨.default, .default, .default, .default⟩

/-- A setting that the sensors cannot run with. -/
inductive Invalid where
  | usageThreshold (value : UInt32)
  | pollInterval
  | queryInterval
  | entrySize
  | apiUrl
  | repeatedFru (kind : FruKind)
  deriving DecidableEq, Repr

def Invalid.message : Invalid → String
  | usageThreshold value =>
    s!"Invalid configuration value: sel.usage_threshold must be within 1..=100, got {value.toNat}"
  | pollInterval => "Invalid configuration value: poll intervals must be greater than zero"
  | queryInterval =>
    "Invalid configuration value: sel.query_interval_seconds must be greater than zero"
  | entrySize => "Invalid configuration value: sel.entry_size_bytes must be greater than zero"
  | apiUrl => "Invalid configuration value: enclosure.api_url must not be empty"
  | repeatedFru kind =>
    s!"Invalid configuration value: enclosure.frus lists {kind.title} more than once"

/-- The first category of a list that stands before itself. -/
def repeated? : List FruKind → List FruKind → Option FruKind
  | _, [] => none
  | earlier, k :: rest => if k ∈ earlier then some k else repeated? (k :: earlier) rest

end Config
end HealthAgent
