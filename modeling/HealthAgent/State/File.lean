import HealthAgent.Files.Path
import HealthAgent.Sensor.Request
/-!
# State files (specification §4.1)

A store keeps its state in text files of a folder of its own. A missing file reads as no text; any
other failure names what could not be used: the folder if it cannot be created or cannot take a new
file, otherwise the file.

Results:
* `fromUTF8?_toByteArray`: the bytes of a text are read as this text.
-/
namespace HealthAgent

theorem fromUTF8?_toByteArray (s : String) : String.fromUTF8? s.toByteArray = some s := by
  unfold String.fromUTF8?
  rw [dif_pos s.isValidUTF8]
  rfl

/-- Why a store cannot be used. -/
inductive StoreError where
  /-- Reading or writing `path` failed. -/
  | inputOutput (path : String)
  /-- The content of `path` does not have its form. -/
  | corrupt (path reason : String)
  deriving DecidableEq, Repr

def StoreError.corruptMessage (path reason : String) : String :=
  s!"Malformed state in {path}: {reason}"

namespace State

/-- The path of `name` in a folder. A name that starts with a slash is a path of its own. -/
def joinPath (folder name : String) : String :=
  if name.startsWith "/" || folder.isEmpty then name
  else if folder.endsWith "/" then folder ++ name
  else folder ++ "/" ++ name

def ensureFolder (folder : String) : SensorProgram (Except StoreError Unit) := do
  return if ← (Request.file (.makeFolder folder)).ask then .ok () else .error (.inputOutput folder)

/-- The text of a file, or none if there is no file. -/
def readText (path : String) : SensorProgram (Except StoreError (Option String)) := do
  match ← (Request.file (.load path)).ask with
  | .absent => return .ok none
  | .failed => return .error (.inputOutput path)
  | .content bytes =>
    return match String.fromUTF8? bytes with
      | some text => .ok (some text)
      | none => .error (.inputOutput path)

def replaceText (path text : String) : SensorProgram (Except StoreError Unit) := do
  match ← (Request.file (.replace path text.toUTF8)).ask with
  | .written => return .ok ()
  | .noFolder => return .error (.inputOutput (FilePath.folderText path))
  | .refused => return .error (.inputOutput path)

end State
end HealthAgent
