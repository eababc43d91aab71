import HealthAgent.Config.Load
import HealthAgent.Enclosure.Sensor
import HealthAgent.Enclosure.Service
import HealthAgent.EventLog.Sensor
import HealthAgent.Ipmi.Tool
import HealthAgent.Schedule.Scheduler
/-!
# Starting the agent (specification §B.2, §B.7)

The agent opens its alert stream and starts the sensors that its configuration names: the sensor of
the event log, unless the host is a virtual machine, and one for each category of units. A sensor
that cannot start is left out; an alert stream or a service URL that cannot be used ends the agent.
-/
namespace HealthAgent

namespace Agent

/-- Where the alerts of an agent go. -/
structure Output where
  /-- The file that alerts are appended to; the standard output if there is none. -/
  file : Option String
  dispatcher : Dispatcher
  deriving DecidableEq

/-- A sensor with its data source. -/
inductive ConnectedSensor where
  | log (sensor : LogSensor) (tool : IpmiTool)
  | fru (sensor : FruSensor) (client : ServiceClient)

/-- Why an agent cannot start. -/
inductive StartFailure where
  | configuration (cause : Config.Error)
  | alertsFile (path : String)
  | serviceUrl (url : String) (cause : SourceError)
  deriving DecidableEq

def StartFailure.message : StartFailure → String
  | configuration _ => "failed to load configuration"
  | alertsFile path => s!"cannot open alerts file {path}"
  | serviceUrl url _ => s!"invalid enclosure.api_url {url.quotedText}"

/-- The alert stream of a configuration; none if its file cannot be written. -/
def openOutput (config : OutputConfig) : HostProgram (Except StartFailure Output) := do
  let mirror := if config.iemMirror then some (Sink.events .warn) else none
  let output : Output := ⟨config.alertsFile, ⟨.lines, mirror⟩⟩
  match config.alertsFile with
  | none => return .ok output
  | some path =>
    return if ← (HostRequest.openEnd path).ask then .ok output else .error (.alertsFile path)

/-- The host's answer to a request of a receiver of alerts. -/
def Output.serve (o : Output) : (r : SinkRequest) → HostProgram r.Answer
  | .write text =>
    match o.file with
    | some path => (HostRequest.append path text).ask
    | none => (HostRequest.print text).ask
  | .flush => return .ok ()
  | .send _ _ => return false
  | .log level text => (HostRequest.logEvent level text).ask

/-- The host's answer to a request of a sensor, with the sensor's data source. -/
def serve (o : Output) (ipmi : (r : IpmiRequest) → HostProgram (Except SourceError String))
    (records : String → String → HostProgram (Except SourceError (List Json))) :
    (r : Request) → HostProgram r.Answer
  | .ipmi r => ipmi r
  | .records path key => records path key
  | .file r => (HostRequest.file r).ask
  | .clock => HostRequest.clock.ask
  | .salt => HostRequest.salt.ask
  | .deliver alert => (o.dispatcher.deliver alert).translate o.serve

/-- The answers for a sensor of the event log, which asks no service. -/
def serveLog (o : Output) (tool : IpmiTool) : (r : Request) → HostProgram r.Answer :=
  serve o tool.answer fun _ _ => return .error (.dependencyMissing "")

/-- The answers for a sensor of units, which asks no management controller. -/
def serveFru (o : Output) (client : ServiceClient) : (r : Request) → HostProgram r.Answer :=
  serve o (fun _ => return .error (.dependencyMissing "")) client.fetch

def milliseconds (seconds : UInt64) : Nat := 1000 * seconds.toNat

def contextOf (s : SystemInformation) (hostName : String) : AlertContext :=
  ⟨s.siteId, s.rackId, s.nodeId, s.clusterId, hostName⟩

/-- Starts the sensor of the event log, if it is to run here. -/
def startLog (config : Config) (context : AlertContext) (zone : Calendar.Zone) (o : Output) :
    HostProgram (List (Registration ConnectedSensor)) := do
  if !config.sel.enabled then return []
  else if ← detectVirtualization then return []
  else
    let tool := IpmiTool.usual config.sel.useSudo
    let folder := State.joinPath config.systemInformation.dataPath "server"
    match ← (LogSensor.start folder config.sel context zone).translate (serveLog o tool) with
    | .ok sensor =>
      return [⟨LogSensor.name, .log sensor tool, milliseconds config.sel.pollIntervalSeconds⟩]
    | .error _ => return []

/-- Starts the sensors of the categories `kinds`. -/
def startFrus (config : Config) (context : AlertContext) (o : Output) :
    List FruKind → HostProgram (Except StartFailure (List (Registration ConnectedSensor)))
  | [] => return .ok []
  | kind :: rest => do
    match ServiceClient.make config.enclosure.apiUrl with
    | .error cause => return .error (.serviceUrl config.enclosure.apiUrl cause)
    | .ok client =>
      let frus := State.joinPath (State.joinPath config.systemInformation.dataPath "encl") "frus"
      let folder := State.joinPath frus kind.folderName
      let started ← (FruSensor.start kind folder context).translate (serveFru o client)
      let sensor := started.toOption.map fun sensor =>
        ⟨FruSensor.nameOf kind, .fru sensor client,
          milliseconds config.enclosure.pollIntervalSeconds⟩
      return (← startFrus config context o rest).map (sensor.toList ++ ·)

end Agent

/-- An agent: its alert stream, and its sensors with their schedule. -/
structure Agent where
  output : Agent.Output
  scheduler : Scheduler Agent.ConnectedSensor

namespace Agent

def build (config : Config) (zone : Calendar.Zone) : HostProgram (Except StartFailure Agent) := do
  let context := contextOf config.systemInformation (← HostRequest.hostName.ask)
  match ← openOutput config.output with
  | .error e => return .error e
  | .ok output =>
    let log ← startLog config context zone output
    let frus ← if config.enclosure.enabled then
        startFrus config context output config.enclosure.frus
      else pure (.ok [])
    return frus.map fun frus => ⟨output, (log ++ frus).foldl Scheduler.add .empty⟩

end Agent
end HealthAgent
