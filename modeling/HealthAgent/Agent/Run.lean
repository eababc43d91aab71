import HealthAgent.Agent.Start
import HealthAgent.CommandLine
/-!
# Running the agent (specification §A.5)

The agent loads its configuration, builds its sensors, and either runs one cycle of each or starts
them on threads of their own until it is told to stop or the last thread has ended.
-/
namespace HealthAgent.Agent

def cycleEnd : Outcome → CycleEnd
  | .proceed => .proceed
  | .shutdown => .shutdown

def ConnectedSensor.poll (o : Output) :
    ConnectedSensor → HostProgram (CycleEnd × ConnectedSensor)
  | .log sensor tool => do
    let now ← HostRequest.elapsed.ask
    let (outcome, sensor) ← (sensor.poll now).translate (serveLog o tool)
    return (cycleEnd outcome, .log sensor tool)
  | .fru sensor client => do
    let (outcome, sensor) ← sensor.poll.translate (serveFru o client)
    return (cycleEnd outcome, .fru sensor client)

def sensorCount (a : Agent) : Nat := a.scheduler.count

/-- Runs one cycle of every sensor. -/
def runOnce (a : Agent) : HostProgram Agent := do
  let (_, scheduler) ← a.scheduler.runOnce (ConnectedSensor.poll a.output)
  return { a with scheduler }

def start (a : Agent) : Agent := { a with scheduler := a.scheduler.start }

/-- Lets threads take their steps until every one has ended, at most `rounds` times. -/
def advanceWhileActive (a : Agent) (rounds : Nat) : HostProgram Agent := do
  let (_, scheduler) ← a.scheduler.advanceUntil (ConnectedSensor.poll a.output)
    (fun s => return s.activeCount = 0) rounds
  return { a with scheduler }

def stop (a : Agent) : HostProgram Agent := do
  return { a with scheduler := ← a.scheduler.stop (ConnectedSensor.poll a.output) }

/-- Loads the configuration of a command line and builds its agent. -/
def prepare (line : CommandLine) (zone : Calendar.Zone) :
    HostProgram (Except StartFailure Agent) := do
  match ← Config.load line.config with
  | .error e => return .error (.configuration e)
  | .ok config => build config zone

/-- Loads and builds the agent of a command line and runs its first cycle if that is all it is to
do. Gives the agent with its threads started otherwise; without sensors there is nothing to do. -/
def launch (line : CommandLine) (zone : Calendar.Zone) :
    HostProgram (Except StartFailure (Option Agent)) := do
  match ← prepare line zone with
  | .error e => return .error e
  | .ok a =>
    if a.sensorCount = 0 then return .ok none
    else if line.once then
      let _ ← a.runOnce
      return .ok none
    else return .ok (some a.start)

/-- Runs the agent of a command line. Its threads are told to stop after `rounds` steps of each, of
which the first cycle takes two. -/
def run (line : CommandLine) (zone : Calendar.Zone) (rounds : Nat) :
    HostProgram (Except StartFailure Unit) := do
  match ← launch line zone with
  | .error e => return .error e
  | .ok none => return .ok ()
  | .ok (some a) =>
    let _ ← (← a.advanceWhileActive rounds).stop
    return .ok ()

/-- The exit status of the agent: 0 for success or help, 1 for a failure to start, and 2 for a
command line that is not understood. -/
def exitStatus (arguments : List String) (zone : Calendar.Zone) (rounds : Nat) :
    HostProgram Nat := do
  match CommandLine.parse arguments with
  | .error .displayHelp => return 0
  | .error _ => return 2
  | .ok line =>
    match ← line.misplacedConfig? with
    | some _ => return 1
    | none =>
      match ← run line zone rounds with
      | .error _ => return 1
      | .ok () => return 0

end HealthAgent.Agent
