import HealthAgent.Files.Tree
import HealthAgent.Host.Request
/-!
# A host in memory

A host for dry runs and statements: its files are a tree, its programs and services answer by fixed
rules, and it keeps a record of what it was asked to do.
-/
namespace HealthAgent

/-- A host in memory. Records are kept with the latest first. -/
structure HostModel where
  name : String
  time : String
  salt : String
  tree : FileTree
  /-- The answers of the programs. -/
  programs : String → List String → ProgramAnswer
  /-- The answers of the services. -/
  services : Url → ServiceAnswer
  /-- The programs that were run, with their arguments. -/
  runs : List (String × List String) := []
  /-- The requests that services answered or broke off. -/
  gets : List Url := []
  output : String := ""
  events : List (LogLevel × String) := []

namespace HostModel

/-- Runs a program as itself. -/
def runPlain (h : HostModel) (program : String) (arguments : List String) :
    ProgramAnswer × HostModel :=
  match h.programs program arguments with
  | .ended output => (.ended output, { h with runs := (program, arguments) :: h.runs })
  | answer => (answer, h)

/-- Runs a program. `sudo` runs the program that its first argument names, and ends with 127 if there
is none, with 126 if it may not be run. -/
def run (h : HostModel) (program : String) (arguments : List String) : ProgramAnswer × HostModel :=
  if program = "sudo" then
    let ended (code : Nat) : ProgramAnswer × HostModel :=
      (.ended ⟨some code, [], []⟩, { h with runs := ("sudo", []) :: h.runs })
    match arguments with
    | [] => ended 1
    | inner :: rest =>
      match h.programs inner rest with
      | .ended output => (.ended output, { h with runs := ("sudo", arguments) :: h.runs })
      | .notFound => ended 127
      | .notPermitted => ended 126
  else h.runPlain program arguments

def serve (r : HostRequest) : StateM HostModel r.Answer := fun h =>
  match r with
  | .run program arguments => h.run program arguments
  | .get url =>
    match h.services url with
    | .refused => (.refused, h)
    | .unsupported => (.unsupported, h)
    | answer => (answer, { h with gets := url :: h.gets })
  | .inspect path =>
    match h.tree.find path with
    | .folder _ => (some .folder, h)
    | .file _ _ => (some .file, h)
    | _ => (none, h)
  | .file r =>
    let (answer, tree) := h.tree.serve r
    (answer, { h with tree })
  | .openEnd path =>
    match h.tree.openEnd? path with
    | some tree => (true, { h with tree })
    | none => (false, h)
  | .append path text =>
    (.ok (), { h with tree := h.tree.append path text.toUTF8 })
  | .print text => (.ok (), { h with output := h.output ++ text })
  | .logEvent level text => ((), { h with events := (level, text) :: h.events })
  | .hostName => (h.name, h)
  | .elapsed => (0, h)
  | .clock => (h.time, h)
  | .salt => (h.salt, h)

/-- Runs a program over the requests of the agent. -/
def perform {α : Type} (h : HostModel) (p : HostProgram α) : α × HostModel := (p.run serve).run h

end HostModel
end HealthAgent
