import HealthAgent.Config.Decode
import HealthAgent.Host.Request
/-!
# Loading the configuration (specification §A.3)

There need not be a configuration file. One that is there has to be a readable text and to hold a
valid configuration.
-/
namespace HealthAgent.Config

/-- Loads the configuration from a file. Without a path, and where nothing is at the path, the
defaults hold. -/
def load (path : Option String) : HostProgram (Except Error Config) := do
  match path with
  | none => return .ok default
  | some path =>
    match ← (HostRequest.inspect path).ask with
    | none => return .ok default
    | some _ =>
      match ← (HostRequest.file (.load path)).ask with
      | .content bytes =>
        return match String.fromUTF8? bytes with
          | some text => parse text
          | none => .error .unreadable
      | _ => return .error .unreadable

end HealthAgent.Config
