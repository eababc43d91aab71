import HealthAgent.Config.Basic
import HealthAgent.Ipmi.Listing
import HealthAgent.Number.Binary64
import HealthAgent.Sensor.Request
/-!
# The usage of the log (specification §4.2)

The log is cleared when it is too full. The usage is what the controller reports, or an estimate
from the number of entries and the free space. It is asked for at most once in an interval, which
begins with a query that succeeded; a query that failed is made again in the next cycle.

Results:
* `used_le_total`: the estimate never exceeds the whole.
-/
namespace HealthAgent

namespace LogUsage
open Text Number

/-- The largest number of 64 bits, where sums and products stay. -/
def limit : Nat := 2 ^ 64 - 1

/-- The bytes in use and the bytes in all, in an estimate. -/
structure Estimate where
  used : Nat
  total : Nat
  deriving DecidableEq, Repr

/-- The estimate for a number of entries, free bytes and the size of an entry. -/
def Estimate.make (entries free entrySize : Nat) : Estimate :=
  let used := min (entries * entrySize) limit
  ⟨used, min (free + used) limit⟩

/-- The percentage that the controller reports, if it reports one. -/
def reported? (info : Dict String) : Option Float :=
  (info.get? "Percent Used").bind fun text =>
    parseFloat? (trim (text.toList.filter (· ≠ '%')))

def entries? (info : Dict String) : Option Nat :=
  (info.get? "Entries").bind fun text => (read 10 (trim text.toList)).toOption

/-- The free space that the controller reports, without its unit. -/
def free? (info : Dict String) : Option Nat :=
  (info.get? "Free Space").bind fun text =>
    (read 10 (trim (text.toList.filter (!·.isAlpha)))).toOption

/-- The estimate from the statistics of the log; none if the log has no room at all. -/
def estimate? (info : Dict String) (entrySize : UInt64) : Option Estimate := do
  let e := Estimate.make (← entries? info) (← free? info) entrySize.toNat
  if e.total = 0 then none else some e

def Estimate.percent (e : Estimate) : Float :=
  100.0 * e.used.toUInt64.toFloat / e.total.toUInt64.toFloat

def percentUsed? (info : Dict String) (entrySize : UInt64) : Option Float :=
  reported? info <|> (estimate? info entrySize).map Estimate.percent

theorem Estimate.used_le_total (entries free entrySize : Nat) :
    (Estimate.make entries free entrySize).used ≤ (Estimate.make entries free entrySize).total := by
  simp only [make]; omega

end LogUsage

/-- The clearing of the log: how often to ask, when to clear, and when the usage was last told. -/
structure UsageMonitor where
  intervalMs : Nat
  threshold : Float
  entrySize : UInt64
  lastQueried : Option Nat

namespace UsageMonitor

/-- The monitor of a configuration, before its first query. -/
def ofConfig (c : LogConfig) : UsageMonitor where
  intervalMs := c.queryIntervalSeconds.toNat * 1000
  threshold := c.usageThreshold.toUInt64.toFloat
  entrySize := c.entrySizeBytes
  lastQueried := none

/-- Whether the usage is to be asked for at a time, in milliseconds. -/
def isDue (m : UsageMonitor) (now : Nat) : Bool :=
  match m.lastQueried with
  | some last => m.intervalMs ≤ now - last
  | none => true

/-- Asks for the usage if that is due, and clears the log if it is too full. Tells whether it was
cleared, and the monitor after the check. -/
def check (m : UsageMonitor) (now : Nat) :
    SensorProgram (Except SourceError Bool × UsageMonitor) := do
  if !m.isDue now then return (.ok false, m)
  match ← (Request.ipmi .logInfo).ask with
  | .error e => return (.error e, m)
  | .ok text =>
    let m := { m with lastQueried := some now }
    match LogUsage.percentUsed? (Ipmi.parseInfo text) m.entrySize with
    | none => return (.ok false, m)
    | some used =>
      if used ≤ m.threshold then return (.ok false, m)
      match ← (Request.ipmi .logClear).ask with
      | .ok _ => return (.ok true, m)
      | .error e => return (if e.isTerminal then .error e else .ok false, m)

end UsageMonitor
end HealthAgent
