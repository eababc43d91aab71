import HealthAgent.Agent.Run
/-!
# The agent as a program

The requests of the agent are answered by the machine that it runs on. Programs and services are
out of reach from here: a program counts as absent and a connection as refused, so the agent runs as
on a host without a management controller.
-/
namespace HealthAgent.Main

def inspect (path : String) : IO (Option PathKind) := do
  try
    let found ← (← IO.FS.realPath path).metadata
    return match found.type with
      | .dir => some .folder
      | .file => some .file
      | _ => none
  catch _ => return none

/-- Answers a request for a file. A file is written beside its place and then moved there. -/
def serveFile : (r : FileRequest) → IO r.Answer
  | .makeFolder path => do
    try
      IO.FS.createDirAll path
      return (← inspect path) = some .folder
    catch _ => return false
  | .load path => do
    try return .content (← IO.FS.readBinFile path)
    catch
      | .noFileOrDirectory .. => return .absent
      | _ => return .failed
  | .replace path bytes => do
    if (← inspect (FilePath.folderText path)) != some .folder then return .noFolder
    try
      IO.FS.writeBinFile (path ++ ".tmp") bytes
      IO.FS.rename (path ++ ".tmp") path
      return .written
    catch _ => return .refused

/-- Writes a text at the end of a file. -/
def append (path text : String) : IO (Except String Unit) := do
  try
    (← IO.FS.Handle.mk path .append).putStr text
    return .ok ()
  catch e => return .error (toString e)

/-- The word after a name at the start of a line of a text. -/
def wordAfter? (name text : String) : Option String :=
  text.textLines.findSome? fun line =>
    match Text.words line.toList with
    | first :: second :: _ => if String.ofList first = name then some (.ofList second) else none
    | _ => none

/-- The time in epoch seconds: that of the start of the machine and the time since. -/
def epochSeconds : IO Nat := do
  let start := (wordAfter? "btime" (← IO.FS.readFile "/proc/stat")).bind String.toNat?
  let since := ((← IO.FS.readFile "/proc/uptime").toList.takeWhile Char.isDigit)
  return start.getD 0 + (String.ofList since).toNat?.getD 0

def serve : (r : HostRequest) → IO r.Answer
  | .run _ _ => return .notFound
  | .get url => return .unreachable url
  | .inspect path => inspect path
  | .file r => serveFile r
  | .openEnd path => return (← append path "").toBool
  | .append path text => append path text
  | .print text => do
    try
      (← IO.getStdout).putStr text
      return .ok ()
    catch e => return .error (toString e)
  | .logEvent level text => IO.eprintln s!"{level.name} {text}"
  | .hostName => return (← IO.FS.readFile "/proc/sys/kernel/hostname").trimBlank
  | .elapsed => IO.monoMsNow
  | .clock => return toString (← epochSeconds)
  | .salt => do
    let bytes ← IO.getRandomBytes 16
    return String.join (bytes.toList.map fun b => Number.hexPadded 2 b.toNat)

/-- Runs a thread to its end. -/
partial def runThread (flag : IO.Ref Bool) (o : Agent.Output)
    (t : Thread Agent.ConnectedSensor) : IO Unit := do
  match t.phase with
  | .gone => return
  | .sleeping slice _ => IO.sleep slice.toUInt32
  | _ => pure ()
  let (t, _) ← t.step (fun s => (s.poll o).run serve) (← flag.get)
  runThread flag o t

/-- Runs the threads of an agent until all have ended. -/
def runThreads (a : Agent) : IO Unit := do
  let flag ← IO.mkRef a.scheduler.running
  let tasks ← a.scheduler.threads.mapM fun t => IO.asTask (runThread flag a.output t) .dedicated
  for task in tasks do
    let _ ← IO.wait task

/-- Runs the agent that the arguments ask for. -/
def runAgent (arguments : List String) : IO UInt32 := do
  match CommandLine.parse arguments with
  | .error .displayHelp =>
    IO.print CommandLine.help
    return 0
  | .error _ =>
    IO.eprint CommandLine.help
    return 2
  | .ok line =>
    match ← line.misplacedConfig?.run serve with
    | some path =>
      IO.eprintln s!"Invalid arguments: {CommandLine.misplacedMessage path}"
      return 1
    | none =>
      let zone := ((← IO.getEnv "TZ").bind Calendar.Zone.parse?).getD .utc
      match ← (Agent.launch line zone).run serve with
      | .error e =>
        IO.eprintln e.message
        return 1
      | .ok none => return 0
      | .ok (some a) =>
        runThreads a
        return 0

end HealthAgent.Main

def main (arguments : List String) : IO UInt32 := HealthAgent.Main.runAgent arguments
