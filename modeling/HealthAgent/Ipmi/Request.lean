/-!
# Requests to the management controller (specification §B.2)

Each request is a command of the management tool.
-/
namespace HealthAgent

/-- What a sensor asks the management controller. -/
inductive IpmiRequest where
  /-- The whole system event log. -/
  | logList
  /-- The statistics of the log. -/
  | logInfo
  /-- Erase the log. -/
  | logClear
  /-- The sensors of a device type. -/
  | sensorsOfType (deviceType : String)
  /-- The description of a threshold sensor. -/
  | sensor (sensorId : String)
  /-- The description of a sensor record. -/
  | record (sensorId : String)
  deriving DecidableEq, Repr

def IpmiRequest.arguments : IpmiRequest → List String
  | logList => ["sel", "list"]
  | logInfo => ["sel", "info"]
  | logClear => ["sel", "clear"]
  | sensorsOfType deviceType => ["sdr", "type", deviceType]
  | sensor sensorId => ["sensor", "get", sensorId]
  | record sensorId => ["sdr", "get", sensorId]

end HealthAgent
