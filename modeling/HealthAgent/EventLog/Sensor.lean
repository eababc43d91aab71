import HealthAgent.EventLog.Draft
import HealthAgent.EventLog.Plan
import HealthAgent.EventLog.SensorNumbers
import HealthAgent.EventLog.Usage
import HealthAgent.State.LogStore
/-!
# The sensor of the system event log (specification §4.2)

Each cycle takes the log as a whole, handles the entries after the cursor, moves the cursor to the
last of them and clears the log if it has become too full. The fetched log is kept in the pending
buffer until the cursor has moved, so a cycle that was cut short is taken up again from the buffer.

The cursor in memory is the one that counts. If it cannot be written, it is written again at the
start of the next cycle.

Results:
* `dispatch_append`: entries are handled one after the other until one fails.
-/
namespace HealthAgent

/-- Why a sensor cannot start. -/
inductive StartError where
  | store (e : StoreError)
  | source (e : SourceError)
  deriving DecidableEq, Repr

structure LogSensor where
  store : LogStore
  /-- The record number of the last handled entry. -/
  cursor : UInt64
  /-- Whether the last writing of the cursor failed. -/
  cursorUnsaved : Bool
  numbers : SensorNumbers
  usage : UsageMonitor
  context : AlertContext
  zone : Calendar.Zone

namespace LogSensor

def name : String := "sel"

/-- Opens the store in a folder and lists the sensors. A cursor file that cannot be understood
counts as 0, so that the whole log is handled again. -/
def start (folder : String) (config : LogConfig) (context : AlertContext) (zone : Calendar.Zone) :
    SensorProgram (Except StartError LogSensor) := do
  match ← LogStore.openIn folder with
  | .error e => return .error (.store e)
  | .ok store =>
    let cursor := match ← store.cursor with
      | .ok index => index
      | .error _ => 0
    match ← SensorNumbers.load with
    | .error e => return .error (.source e)
    | .ok numbers =>
      return .ok ⟨store, cursor, false, numbers, .ofConfig config, context, zone⟩

/-- Writes the cursor, and notes whether that failed. -/
def saveCursor (s : LogSensor) : SensorProgram LogSensor := do
  match ← s.store.setCursor s.cursor with
  | .ok () => return { s with cursorUnsaved := false }
  | .error _ => return { s with cursorUnsaved := true }

/-- The lines to handle: those of a buffer that an earlier cycle left, else those of the log, which
goes into the buffer. None if the buffer cannot be read. -/
def loadBuffer (s : LogSensor) : SensorProgram (Except SourceError (Option (List String))) := do
  match ← s.store.pending with
  | .error _ => return .ok none
  | .ok (line :: lines) => return .ok (some (line :: lines))
  | .ok [] =>
    match ← (Request.ipmi .logList).ask with
    | .error e => return .error e
    | .ok text =>
      let _ ← s.store.replacePending text
      return .ok (some text.writtenLines)

/-- The device type and the sensor that an entry is about, if both are known. -/
def target? (s : LogSensor) (entry : LogEntry) : Option (Device × String) := do
  let device ← Device.parse? entry.deviceType
  let sensorId ← s.numbers.sensorId? device (← entry.deviceNumber)
  return (device, sensorId)

/-- Handles one entry: delivers its alert, if it raises one. -/
def dispatchEntry (s : LogSensor) (u : TailPlan.Unseen) :
    SensorProgram (Except SourceError Unit) := do
  match s.target? u.entry with
  | none => return .ok ()
  | some (device, sensorId) =>
    match ← device.draft s.zone u.entry sensorId u.terminal with
    | .error e => return .error e
    | .ok none => return .ok ()
    | .ok (some draft) =>
      let salt ← Request.salt.ask
      let _ ← (Request.deliver (s.context.assemble salt draft)).ask
      return .ok ()

/-- Handles entries in order, until one fails. -/
def dispatch (s : LogSensor) : List TailPlan.Unseen → SensorProgram (Except SourceError Unit)
  | [] => .done (.ok ())
  | u :: rest => do
    match ← s.dispatchEntry u with
    | .error e => return .error e
    | .ok () => dispatch s rest

/-- Moves the cursor behind the handled entries, then empties the buffer. -/
def commit (s : LogSensor) (plan : TailPlan) : SensorProgram LogSensor := do
  let s ← match plan.nextCursor with
    | some index => saveCursor { s with cursor := index }
    | none => pure s
  let _ ← s.store.clearPending
  return s

/-- Handles the entries after the cursor. -/
def processLog (s : LogSensor) : SensorProgram (Except SourceError Unit × LogSensor) := do
  let s ← if s.cursorUnsaved then s.saveCursor else pure s
  match ← s.loadBuffer with
  | .error e => return (.error e, s)
  | .ok none => return (.ok (), s)
  | .ok (some lines) =>
    let plan := TailPlan.make (LogEntry.parseLines lines) s.cursor
    match ← s.dispatch plan.unseen with
    | .error e => return (.error e, s)
    | .ok () => return (.ok (), ← s.commit plan)

/-- Clears the log if it is too full; the cursor then starts again at 0. -/
def checkUsage (s : LogSensor) (now : Nat) : SensorProgram (Except SourceError Unit × LogSensor) := do
  let (result, usage) ← s.usage.check now
  let s := { s with usage }
  match result with
  | .ok true => return (.ok (), ← saveCursor { s with cursor := 0 })
  | .ok false => return (.ok (), s)
  | .error e => return (if e.isTerminal then .error e else .ok (), s)

/-- Runs one cycle at a time, in milliseconds. -/
def poll (s : LogSensor) (now : Nat) : SensorProgram (Outcome × LogSensor) := do
  let (result, s) ← s.processLog
  match result with
  | .error e => return (.ofResult (.error e), s)
  | .ok () =>
    let (result, s) ← s.checkUsage now
    return (.ofResult result, s)

theorem dispatch_append (s : LogSensor) (us vs : List TailPlan.Unseen) :
    s.dispatch (us ++ vs) = (s.dispatch us).bind fun
      | .error e => .done (.error e)
      | .ok () => s.dispatch vs := by
  induction us with
  | nil => rfl
  | cons u us ih =>
    simp only [List.cons_append, dispatch, Program.bind_eq, Program.bind_assoc]
    congr 1
    funext r
    cases r with
    | error e => rfl
    | ok x => exact ih

end LogSensor
end HealthAgent
