import HealthAgent.Files.Path
import HealthAgent.Files.Request
/-!
# Folders in memory

A tree of folders and files stands for a disk in dry runs and in statements about state files. It
answers requests for files as a disk does: a path is followed from the top, step by step, through
folders that have to be there; a folder cannot be read or replaced, a file in a folder that is not
there cannot be written, and nothing lies below a file.

Results:
* `read_replace`: a file that was replaced reads as its new content.
-/
namespace HealthAgent

inductive FileNode where
  | folder
  | file (bytes : ByteArray)
  deriving DecidableEq

/-- Folders and files by path. The empty path is always a folder. -/
structure FileTree where
  nodes : List (List String × FileNode)
  deriving DecidableEq

namespace FileTree

def empty : FileTree := ⟨[]⟩

instance : Inhabited FileTree := ⟨empty⟩

/-- What lies where steps from the top lead. -/
def node? (t : FileTree) (path : List String) : Option FileNode :=
  if path = [] then some .folder else (t.nodes.find? (·.1 = path)).map (·.2)

/-- The tree with a node at a path, in place of an older one. -/
def set (t : FileTree) (path : List String) (node : FileNode) : FileTree :=
  ⟨(path, node) :: t.nodes.filter (·.1 ≠ path)⟩

/-- The tree without what lies at a path or below it. -/
def remove (t : FileTree) (path : List String) : FileTree :=
  ⟨t.nodes.filter fun e => !path.isPrefixOf e.1⟩

/-- Where a path leads. -/
inductive Place where
  | folder (at_ : List String)
  | file (at_ : List String) (bytes : ByteArray)
  /-- Nothing is there, but something can be made there; if `onlyFolder`, only a folder. -/
  | free (at_ : List String) (onlyFolder : Bool)
  /-- A folder on the way is not there. -/
  | astray
  /-- A file or an impossible name is in the way. -/
  | barred
  deriving DecidableEq

/-- Follows steps from the folder at `at_`. -/
def follow (t : FileTree) (ending : PathEnd) (at_ : List String) : List String → Place
  | [] => .folder at_
  | name :: rest =>
    if name = ".." then follow t ending at_.dropLast rest
    else if FilePath.nameLimit < name.utf8ByteSize then .barred
    else
      let here := at_ ++ [name]
      match t.node? here, rest with
      | some .folder, rest => follow t ending here rest
      | some (.file bytes), [] => if ending = .step then .file here bytes else .barred
      | some (.file _), _ :: _ => .barred
      | none, [] => if ending = .dot then .astray else .free here (ending = .slash)
      | none, _ :: _ => .astray

def locate (t : FileTree) (p : FilePath) : Place := t.follow p.ending [] p.steps

/-- Where the text of a path leads. -/
def find (t : FileTree) (path : String) : Place :=
  if FilePath.isPath path then t.locate (.parse path) else .barred

/-- Makes the folder of a path in a folder that is there; tells whether a folder is there then, or
nothing if one on the way is missing. -/
def makeOne (t : FileTree) (p : FilePath) : Option Bool × FileTree :=
  match t.locate p with
  | .folder _ => (some true, t)
  | .free at_ _ => (some true, t.set at_ .folder)
  | .astray => (none, t)
  | _ => (some false, t)

/-- Makes the folder of a path, after those above it that are missing. -/
def makeAll (t : FileTree) (p : FilePath) : Bool × FileTree :=
  match t.makeOne p with
  | (some done, t) => (done, t)
  | (none, t) =>
    if _h : p.steps = [] then (false, t)
    else
      match makeAll t p.parent with
      | (false, t) => (false, t)
      | (true, t) =>
        let (done, t) := t.makeOne p
        (done.getD false, t)
termination_by p.steps.length
decreasing_by
  have := List.length_pos_iff.2 _h
  simp only [FilePath.parent, List.length_dropLast]
  omega

/-- Makes a folder and those above it; tells whether it is there then. -/
def makeFolder (t : FileTree) (path : String) : Bool × FileTree :=
  if FilePath.isPath path then t.makeAll (.parse path) else (false, t)

/-- The answer to reading a path. -/
def read (t : FileTree) (path : String) : ReadAnswer :=
  match t.find path with
  | .file _ bytes => .content bytes
  | .folder _ => .failed
  | .barred => .failed
  | .free _ _ => .absent
  | .astray => .absent

/-- The answer to replacing a file, and the tree after it. The new file is written beside its place
and then moved there. -/
def replace (t : FileTree) (path : String) (bytes : ByteArray) : WriteAnswer × FileTree :=
  match t.find (FilePath.folderText path) with
  | .folder _ =>
    match t.find path with
    | .file at_ _ => (.written, t.set at_ (.file bytes))
    | .free at_ false => (.written, t.set at_ (.file bytes))
    | _ => (.refused, t)
  | _ => (.noFolder, t)

def serve (t : FileTree) : (r : FileRequest) → r.Answer × FileTree
  | .makeFolder path => t.makeFolder path
  | .load path => (t.read path, t)
  | .replace path bytes => t.replace path bytes

/-- The tree with a file at a path to which text can be added; none if there can be no such file. -/
def openEnd? (t : FileTree) (path : String) : Option FileTree :=
  match t.find path with
  | .file _ _ => some t
  | .free at_ false => some (t.set at_ (.file .empty))
  | _ => none

/-- The tree with more bytes at the end of a file. -/
def append (t : FileTree) (path : String) (bytes : ByteArray) : FileTree :=
  match t.find path with
  | .file at_ old => t.set at_ (.file (old ++ bytes))
  | _ => t

/-- The tree with a file written in its place, in a folder that is there. -/
def write (t : FileTree) (path : String) (bytes : ByteArray) : FileTree :=
  match t.find path with
  | .file at_ _ => t.set at_ (.file bytes)
  | .free at_ false => t.set at_ (.file bytes)
  | _ => t

/-- The tree without a file, or without a folder and all that is in it. A folder whose path ends in
dots is only emptied. -/
def clear (t : FileTree) (path : String) : FileTree :=
  match t.find path with
  | .file at_ _ => t.remove at_
  | .folder at_ =>
    let p := FilePath.parse path
    if p.ending = .dot || p.steps.getLast? = some ".." then (t.remove at_).set at_ .folder
    else t.remove at_
  | _ => t

/-- The files of the tree, with their paths. -/
def files (t : FileTree) : List (List String × ByteArray) :=
  t.nodes.filterMap fun (path, node) =>
    match node with
    | .file bytes => some (path, bytes)
    | .folder => none

theorem node?_set (t : FileTree) (path p : List String) (node : FileNode) (h : p ≠ []) :
    (t.set path node).node? p = if p = path then some node else t.node? p := by
  by_cases hp : p = path
  · subst hp; simp [node?, set, h]
  · have hne : ¬path = p := fun hpath => hp hpath.symm
    have hfind : (t.nodes.filter (·.1 ≠ path)).find? (·.1 = p) = t.nodes.find? (·.1 = p) := by
      induction t.nodes with
      | nil => rfl
      | cons e rest ih =>
        by_cases he : e.1 = path
        · have : ¬e.1 = p := fun hep => hne (he ▸ hep)
          simp_all
        · by_cases hep : e.1 = p <;> simp_all
    simp only [node?, set, h, hp, if_false]
    rw [List.find?_cons_of_neg (by simpa using hne), hfind]

/-- Whether a place is one where a file can be written: `at_` holds one, or nothing. -/
def Place.takesFile (at_ : List String) : Place → Prop
  | .file here _ => here = at_
  | .free here onlyFolder => here = at_ ∧ onlyFolder = false
  | _ => False

theorem node?_of_takesFile (t : FileTree) (ending : PathEnd) (target : List String) (steps : List String) :
    ∀ at_, (t.follow ending at_ steps).takesFile target →
      target ≠ [] ∧ t.node? target ≠ some .folder := by
  induction steps with
  | nil => intro at_ h; exact h.elim
  | cons name rest ih =>
    intro at_ h
    unfold follow at h
    split at h
    · exact ih _ h
    split at h
    · exact h.elim
    dsimp only at h
    split at h
    · exact ih _ h
    · next hnode =>
      split at h
      · cases h; simp [hnode]
      · exact h.elim
    · exact h.elim
    · next hnode =>
      split at h
      · exact h.elim
      · obtain ⟨rfl, -⟩ := h; simp [hnode]
    · exact h.elim

theorem follow_set (t : FileTree) (ending : PathEnd) (target : List String) (bytes : ByteArray)
    (steps : List String) : ∀ at_, (t.follow ending at_ steps).takesFile target →
      (t.set target (.file bytes)).follow ending at_ steps = .file target bytes := by
  induction steps with
  | nil => intro at_ h; exact h.elim
  | cons name rest ih =>
    intro at_ h
    have ⟨hne, hnot⟩ := t.node?_of_takesFile ending target (name :: rest) at_ h
    unfold follow at h ⊢
    split at h
    · next hup => rw [if_pos hup]; exact ih _ h
    next hup =>
    rw [if_neg hup]
    split at h
    · exact h.elim
    next hlimit =>
    rw [if_neg hlimit]
    dsimp only at h ⊢
    have hhere : at_ ++ [name] ≠ [] := by simp
    rw [t.node?_set target (at_ ++ [name]) (.file bytes) hhere]
    split at h
    · next hnode =>
      rw [if_neg (fun heq : at_ ++ [name] = target => hnot (heq ▸ hnode)), hnode]
      exact ih _ h
    · next hnode =>
      split at h
      · next hend => cases h; simp [hend]
      · exact h.elim
    · exact h.elim
    · next hnode =>
      split at h
      · exact h.elim
      · next hdot =>
        obtain ⟨rfl, hslash⟩ := h
        have hstep : ending = .step := by
          cases ending with
          | step => rfl
          | slash => simp at hslash
          | dot => exact absurd rfl hdot
        simp [hstep]
    · exact h.elim

theorem find_set (t : FileTree) (path : String) (at_ : List String) (bytes : ByteArray)
    (h : (t.find path).takesFile at_) :
    (t.set at_ (.file bytes)).find path = .file at_ bytes := by
  unfold find at h ⊢
  split at h
  · next hpath => rw [if_pos hpath]; exact t.follow_set _ _ _ _ _ h
  · exact h.elim

theorem read_replace (t t' : FileTree) (path : String) (bytes : ByteArray)
    (h : t.replace path bytes = (.written, t')) : t'.read path = .content bytes := by
  unfold replace at h
  split at h
  · split at h
    · next at_ old hfind =>
      simp only [Prod.mk.injEq, true_and] at h
      rw [← h, read, t.find_set path at_ bytes (by rw [hfind]; rfl)]
    · next at_ hfind =>
      simp only [Prod.mk.injEq, true_and] at h
      rw [← h, read, t.find_set path at_ bytes (by rw [hfind]; exact ⟨rfl, rfl⟩)]
    · simp at h
  · simp at h

end FileTree
end HealthAgent
