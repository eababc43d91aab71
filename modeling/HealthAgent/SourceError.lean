/-!
# Failures of the data sources (specification §7, §A.2)

A sensor asks a management controller or a management service for data. Every failure is met again
at the next cycle, except a missing dependency, which ends the sensor.

Results:
* `isTerminal_iff`: only a missing dependency is terminal.
-/
namespace HealthAgent

/-- Why a data source gave no answer. -/
inductive SourceError where
  /-- A program could not be started. -/
  | spawnFailed (text : String)
  /-- A program ended with a failure status. -/
  | commandFailed (command : String) (code : Int) (output : String)
  /-- A tool or service that the sensor needs is absent. -/
  | dependencyMissing (text : String)
  /-- A service answered with a failure status. -/
  | httpStatus (url : String) (status : Nat)
  /-- A service could not be asked. -/
  | transport (text : String)
  /-- An answer does not have its form. -/
  | malformed (text : String)
  /-- Reading or writing failed. -/
  | inputOutput (text : String)
  deriving DecidableEq, Repr

namespace SourceError

def message : SourceError → String
  | spawnFailed text => s!"Failed to spawn subprocess: {text}"
  | commandFailed command code output =>
    s!"Command `{command}` exited with status {code}: {output}"
  | dependencyMissing text => s!"Required dependency unavailable: {text}"
  | httpStatus url status => s!"HTTP request to {url} failed with status {status}"
  | transport text => s!"HTTP transport error: {text}"
  | malformed text => s!"Failed to parse output: {text}"
  | inputOutput text => s!"IO error: {text}"

/-- Whether a failure ends the sensor. -/
def isTerminal : SourceError → Bool
  | dependencyMissing _ => true
  | _ => false

theorem isTerminal_iff (e : SourceError) : e.isTerminal = true ↔ ∃ t, e = dependencyMissing t := by
  cases e <;> simp [isTerminal]

end SourceError
end HealthAgent
