import HealthAgent.Host.Request
import HealthAgent.Text.Cut
import HealthAgent.Text.Blank
import HealthAgent.Text.Utf8
/-!
# The management tool (specification §B.2)

The management controller is asked through a command line tool, run as it is or through `sudo`. The
exit status and the error output tell a failure of the command from a missing tool or controller.
-/
namespace HealthAgent

/-- The tool that asks the management controller. -/
structure IpmiTool where
  program : String
  viaSudo : Bool
  deriving DecidableEq, Repr

namespace IpmiTool

def usual (viaSudo : Bool) : IpmiTool := ⟨"ipmitool", viaSudo⟩

/-- A command of the tool in messages. -/
def describe (t : IpmiTool) (arguments : List String) : String :=
  t.program ++ " " ++ String.intercalate " " arguments

/-- How the tool's messages about a device that cannot be opened start. -/
def deviceComplaint : List Char := "Could not open device at ".toList

/-- Whether a text starts with a complaint about a device, blanks aside. -/
def complains (text : String) : Bool :=
  deviceComplaint.isPrefixOf (Text.trimStart text.toList)

/-- The answer that an ended command stands for. -/
def readEnd (description : String) (output : ProgramOutput) : Except SourceError String :=
  let stdout := Text.decodeLossy output.stdout
  let stderr := Text.decodeLossy output.stderr
  match output.code with
  | some 0 => .ok stdout
  | some 127 =>
    .error (.dependencyMissing s!"required ipmitool missing on node ({description})")
  | some code =>
    if code = 1 && (complains stderr || complains stdout) then
      .error (.dependencyMissing s!"ipmitool cannot reach the BMC: {stderr.trimBlank}")
    else if Text.occursIn "command not found".toList stderr.toList then
      .error (.dependencyMissing s!"{description}: {stderr.trimBlank}")
    else .error (.commandFailed description code stderr.trimBlank)
  | none => .error (.commandFailed description (-1) "terminated by signal")

/-- The program and the arguments that a command is run by. -/
def commandLine (t : IpmiTool) (arguments : List String) : String × List String :=
  if t.viaSudo then ("sudo", t.program :: arguments) else (t.program, arguments)

/-- Runs a request of a sensor. An argument with a NUL cannot be handed to a program. -/
def answer (t : IpmiTool) (r : IpmiRequest) : HostProgram (Except SourceError String) := do
  let description := t.describe r.arguments
  let (program, arguments) := t.commandLine r.arguments
  if (program :: arguments).any (·.toList.contains '\x00') then
    return .error (.spawnFailed s!"{description}: nul byte found in provided data")
  else
    match ← (HostRequest.run program arguments).ask with
    | .ended output => return readEnd description output
    | .notFound =>
      return .error (.dependencyMissing s!"{t.program}: No such file or directory (os error 2)")
    | .notPermitted =>
      return .error (.spawnFailed s!"{description}: Permission denied (os error 13)")

end IpmiTool

/-- Whether the host is a virtual machine, where no management controller can be reached. -/
def detectVirtualization : HostProgram Bool := do
  match ← (HostRequest.run "systemd-detect-virt" []).ask with
  | .ended output => return output.code = some 0
  | _ => return false

end HealthAgent
