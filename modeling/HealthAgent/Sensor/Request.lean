import HealthAgent.Alert.Draft
import HealthAgent.Files.Request
import HealthAgent.Ipmi.Request
import HealthAgent.Program
import HealthAgent.SourceError
/-!
# What a sensor asks of its surroundings (specification §2, §6)

A sensor is a program over these requests: it asks its data source, reads and replaces its state
files, and delivers alerts.

Results:
* `Outcome.ofResult_eq_shutdown`: a cycle ends the sensor exactly if it met a terminal failure.
-/
namespace HealthAgent

inductive Request where
  /-- Ask the management controller. -/
  | ipmi (r : IpmiRequest)
  /-- Fetch the records under `key` of the service's resource at `path`. -/
  | records (path key : String)
  | file (r : FileRequest)
  /-- The present time in epoch seconds, as text. -/
  | clock
  /-- A random text that makes an alert's identity unique. -/
  | salt
  /-- Hand an alert to its receivers; tells whether the primary receiver took it. -/
  | deliver (alert : AlertRecord)

@[reducible] def Request.Answer : Request → Type
  | ipmi _ => Except SourceError String
  | records _ _ => Except SourceError (List Json)
  | file r => r.Answer
  | clock => String
  | salt => String
  | deliver _ => Bool

abbrev SensorProgram (α : Type) := Program Request Request.Answer α

def Request.ask (r : Request) : SensorProgram r.Answer := Program.ask r

/-- What is to be done with a sensor after a cycle. -/
inductive Outcome where
  /-- Run the next cycle in due time. -/
  | proceed
  /-- Something that the sensor needs is gone; run no more cycles. -/
  | shutdown
  deriving DecidableEq, Repr

/-- The outcome of a cycle that ended with this failure or none. -/
def Outcome.ofResult : Except SourceError Unit → Outcome
  | .ok () => .proceed
  | .error e => if e.isTerminal then .shutdown else .proceed

theorem Outcome.ofResult_eq_shutdown (r : Except SourceError Unit) :
    ofResult r = .shutdown ↔ ∃ text, r = .error (.dependencyMissing text) := by
  cases r with
  | ok u => simp [ofResult]
  | error e => cases e <;> simp [ofResult, SourceError.isTerminal]

end HealthAgent
