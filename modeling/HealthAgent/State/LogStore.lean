import HealthAgent.Number.Digits
import HealthAgent.State.File
import HealthAgent.Text.Lines
import HealthAgent.Text.Quoted
/-!
# The state of the log sensor (specification §4.1)

Two files hold the state: the cursor, one line with the record number of the last handled entry in
hexadecimal, and the pending buffer, the log as it was fetched by a cycle that has not ended yet.
An empty or missing cursor file reads as 0; the buffer is empty while no cycle is under way.
-/
namespace HealthAgent

/-- The state files of the log sensor. -/
structure LogStore where
  cursorPath : String
  pendingPath : String
  deriving DecidableEq, Repr

namespace LogStore
open State

def cursorName : String := "last_sel_index"

/-- The name of the buffer file. -/
def pendingName : String := "sel_list"

def inFolder (folder : String) : LogStore :=
  ⟨joinPath folder cursorName, joinPath folder pendingName⟩

/-- The content of the cursor file for a record number. -/
def cursorText (index : UInt64) : String := Number.hex index.toNat ++ "\n"

/-- Reads the content of the cursor file. -/
def parseCursor (text : String) : Except (String × Number.DigitsError) UInt64 :=
  let line := (text.textLines.headD "").trimBlank
  if line.isEmpty then .ok 0
  else
    match Number.read 16 line.toList with
    | .ok n => .ok n.toUInt64
    | .error e => .error (line, e)

def setCursor (s : LogStore) (index : UInt64) : SensorProgram (Except StoreError Unit) :=
  replaceText s.cursorPath (cursorText index)

/-- The record number of the last handled entry. -/
def cursor (s : LogStore) : SensorProgram (Except StoreError UInt64) := do
  match ← readText s.cursorPath with
  | .error e => return .error e
  | .ok text =>
    return match parseCursor (text.getD "") with
      | .ok index => .ok index
      | .error (line, e) => .error
          (.corrupt s.cursorPath s!"{line.quotedText} is not a hex index: {e.message}")

/-- The lines of the pending buffer that hold more than blanks. -/
def pending (s : LogStore) : SensorProgram (Except StoreError (List String)) := do
  return (← readText s.pendingPath).map fun text => (text.getD "").writtenLines

/-- Whether an earlier cycle left lines in the buffer. -/
def hasPending (s : LogStore) : SensorProgram (Except StoreError Bool) := do
  return (← s.pending).map (!·.isEmpty)

/-- Replaces the pending buffer by a fetched log. -/
def replacePending (s : LogStore) (text : String) : SensorProgram (Except StoreError Unit) :=
  replaceText s.pendingPath text

/-- Empties the pending buffer. -/
def clearPending (s : LogStore) : SensorProgram (Except StoreError Unit) :=
  replaceText s.pendingPath ""

/-- Opens the store in a folder, which is created if needed; a missing or blank cursor file is
written with 0, a missing buffer file as empty. -/
def openIn (folder : String) : SensorProgram (Except StoreError LogStore) := do
  let s := inFolder folder
  let .ok () ← ensureFolder folder | return .error (.inputOutput folder)
  match ← readText s.cursorPath with
  | .error e => return .error e
  | .ok text =>
    let wrote ← if (text.getD "").isAllBlank then s.setCursor 0 else pure (.ok ())
    match wrote with
    | .error e => return .error e
    | .ok () =>
      match ← readText s.pendingPath with
      | .error e => return .error e
      | .ok (some _) => return .ok s
      | .ok none => return (← s.clearPending).map fun () => s

end LogStore
end HealthAgent
