import HealthAgent.Text.Cut
/-!
# Paths of files

A path is a text of steps between slashes. An empty step and a single dot stay where they are, and
two dots go up. A path that ends in a slash or in a single dot names a folder, and only a folder.

The folder of a path is found in its text alone: it is the path without its last step that is
neither empty nor a single dot.
-/
namespace HealthAgent

/-- What the end of a path says about what it names. -/
inductive PathEnd where
  /-- The path ends in a name or in two dots. -/
  | step
  /-- A slash follows the last step. -/
  | slash
  /-- A single dot follows the last step. -/
  | dot
  deriving DecidableEq, Repr

structure FilePath where
  /-- The names and the double dots. -/
  steps : List String
  ending : PathEnd
  deriving DecidableEq, Repr

namespace FilePath

/-- Whether a part of a path stays where it is. -/
def isStill (part : List Char) : Bool := part = [] || part = ['.']

def parse (path : String) : FilePath :=
  let parts := Text.fields '/' path.toList
  let after := parts.reverse.takeWhile isStill
  { steps := (parts.filter (!isStill ·)).map String.ofList
    ending := if after.contains ['.'] then .dot else if after = [] then .step else .slash }

/-- The path of the folder in which a path's last step is taken. -/
def parent (p : FilePath) : FilePath := ⟨p.steps.dropLast, .step⟩

/-- The longest name that a file may have, in bytes. -/
def nameLimit : Nat := 255

/-- The longest text that a path may have, in bytes. -/
def textLimit : Nat := 4095

/-- Whether a text can be a path at all. -/
def isPath (path : String) : Bool :=
  !path.toList.contains '\x00' && path.utf8ByteSize ≤ textLimit

/-- The text of the folder of a path. -/
def folderText (path : String) : String :=
  let cut (parts : List (List Char)) : List (List Char) := parts.dropWhile isStill
  let above := cut ((cut (Text.fields '/' path.toList).reverse).drop 1)
  if above.isEmpty then (if path.startsWith "/" then "/" else ".")
  else .ofList (List.intercalate ['/'] above.reverse)

end FilePath
end HealthAgent
