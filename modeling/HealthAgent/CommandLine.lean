import HealthAgent.Host.Request
/-!
# The command line (specification §A.5)

The options are a configuration file, `-c FILE` or `--config FILE`, and the flags `-v`/`--verbose`,
`--once` and `-h`/`--help`. A value may follow in the next argument, or in the same one after `=`
or, for a short option, directly. Short options may share an argument. No option is given twice, and
nothing but options is accepted.

A value in an argument of its own is taken in only when the next option or the end comes, so that a
mistake in an argument after it is reported first.
-/
namespace HealthAgent

/-- What the command line asks for. -/
structure CommandLine where
  config : Option String
  verbose : Bool
  once : Bool
  deriving DecidableEq, Repr

namespace CommandLine

/-- Why the arguments do not tell what to do. -/
inductive UsageError where
  /-- The help text is asked for. -/
  | displayHelp
  | unknownArgument
  /-- An option is given twice. -/
  | argumentConflict
  /-- An option lacks its value. -/
  | invalidValue
  /-- A flag is given a value. -/
  | tooManyValues
  deriving DecidableEq, Repr

inductive Opt where
  | config | verbose | once | help
  deriving DecidableEq, Repr

def Opt.ofLong? (name : String) : Option Opt :=
  match name with
  | "config" => some config
  | "verbose" => some verbose
  | "once" => some once
  | "help" => some help
  | _ => none

def Opt.ofShort? (name : Char) : Option Opt :=
  match name with
  | 'c' => some config
  | 'v' => some verbose
  | 'h' => some help
  | _ => none

/-- What has been read. -/
structure Progress where
  line : CommandLine
  /-- The value of a configuration option that is not taken in yet; none inside if it is still to
  come. -/
  waiting : Option (Option String)
  /-- Whether the next argument may be that value. -/
  expectsValue : Bool

def Progress.start : Progress := ⟨⟨none, false, false⟩, none, false⟩

/-- Takes in the value of the configuration option. -/
def setConfig (line : CommandLine) (value : String) : Except UsageError CommandLine :=
  if line.config.isSome then .error .argumentConflict
  else if value.isEmpty then .error .invalidValue
  else .ok { line with config := some value }

/-- Takes in the value that is waiting, if any. -/
def Progress.settle (p : Progress) : Except UsageError CommandLine :=
  match p.waiting with
  | none => .ok p.line
  | some none => .error .invalidValue
  | some (some value) => setConfig p.line value

def setFlag (p : Progress) (o : Opt) : Except UsageError Progress := do
  let line ← p.settle
  match o with
  | .verbose =>
    if line.verbose then .error .argumentConflict
    else return ⟨{ line with verbose := true }, none, false⟩
  | .once =>
    if line.once then .error .argumentConflict
    else return ⟨{ line with once := true }, none, false⟩
  | .help => .error .displayHelp
  | .config => return ⟨line, some none, true⟩

/-- Takes in a configuration option whose value is given with it. -/
def setAttached (p : Progress) (value : String) : Except UsageError Progress := do
  return ⟨← setConfig (← p.settle) value, none, false⟩

/-- Reads an argument with a long name, perhaps with a value after `=`. -/
def readLong (p : Progress) (name : String) (value : Option String) : Except UsageError Progress :=
  match Opt.ofLong? name, value with
  | none, _ => .error .unknownArgument
  | some .config, some value => setAttached p value
  | some _, some _ => .error .tooManyValues
  | some o, none => setFlag p o

/-- Reads the short names of an argument. -/
def readShort (p : Progress) : List Char → Except UsageError Progress
  | [] => .ok p
  | c :: rest =>
    match Opt.ofShort? c with
    | none => .error .unknownArgument
    | some .config =>
      match rest with
      | [] => setFlag p .config
      | '=' :: value => setAttached p (.ofList value)
      | value => setAttached p (.ofList value)
    | some o => do readShort (← setFlag p o) rest

/-- Reads the arguments that are left. After `--` no more options are read. -/
def readAll (p : Progress) : List String → Except UsageError CommandLine
  | [] => p.settle
  | argument :: rest =>
    match argument.toList with
    | ['-', '-'] => if rest.isEmpty then p.settle else .error .unknownArgument
    | '-' :: '-' :: long => do
      let (name, after) := long.span (· ≠ '=')
      let value := if after.isEmpty then none else some (String.ofList (after.drop 1))
      readAll (← readLong p (.ofList name) value) rest
    | '-' :: c :: short => do
      readAll (← readShort p (c :: short)) rest
    | _ =>
      if p.expectsValue then
        readAll { p with waiting := some (some argument), expectsValue := false } rest
      else .error .unknownArgument

def parse (arguments : List String) : Except UsageError CommandLine := readAll .start arguments

def help : String := String.intercalate "\n" [
  "Tails the system event log and polls the enclosure service, and raises alerts.",
  "",
  "Options:",
  "  -c, --config FILE  Configuration file path (TOML format)",
  "  -v, --verbose      Enable verbose logging output",
  "      --once         Poll every enabled sensor a single time, then exit",
  "  -h, --help         Print help",
  ""]

/-- The path given as a configuration file, if something else is there. -/
def misplacedConfig? (line : CommandLine) : HostProgram (Option String) := do
  match line.config with
  | none => return none
  | some path =>
    return if (← (HostRequest.inspect path).ask) = some .folder then some path else none

/-- The text about a path that is no configuration file. -/
def misplacedMessage (path : String) : String :=
  s!"Configuration path is not a file: {path}"

end CommandLine
end HealthAgent
