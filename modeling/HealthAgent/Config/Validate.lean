import HealthAgent.Config.Basic
import HealthAgent.Text.Blank
/-!
# Valid configurations (specification §A.3)

The settings of the event log are checked before those of the enclosure, and of several mistakes the
first is reported. The address of the service counts only if the enclosure is asked at all.
-/
namespace HealthAgent.Config

/-- The first setting that the sensors cannot run with. -/
def validate (c : Config) : Except Invalid Unit :=
  if c.sel.usageThreshold = 0 ∨ c.sel.usageThreshold > 100 then
    .error (.usageThreshold c.sel.usageThreshold)
  else if c.sel.pollIntervalSeconds = 0 ∨ c.enclosure.pollIntervalSeconds = 0 then
    .error .pollInterval
  else if c.sel.queryIntervalSeconds = 0 then .error .queryInterval
  else if c.sel.entrySizeBytes = 0 then .error .entrySize
  else if c.enclosure.enabled ∧ c.enclosure.apiUrl.isAllBlank then .error .apiUrl
  else
    match repeated? [] c.enclosure.frus with
    | some kind => .error (.repeatedFru kind)
    | none => .ok ()

end HealthAgent.Config
