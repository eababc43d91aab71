import HealthAgent.Enclosure.Sensor
import HealthAgent.Proofs.Enclosure.FaultFile
import HealthAgent.Proofs.Program.Runs
/-!
# The surroundings of an enclosure's sensor

The sensor of a category of units lives beside a disk and the management service. `Site` holds the
files by path and the alerts that were handed over. `Site.Step` says which answers a site gives on
which every file can be read and replaced: the service gives the records that it has, and the time,
the salt of an alert and the word of the receivers are open. `Site.Attempt` also allows attempts to
replace a file that fail.

Seen from the site, the store of a fault map is a map, `Site.memory`. Opening and loading a store
may replace its file, `Site.opened` and `Site.loaded`, but only where the file holds no map; then
the new file holds the map that was loaded.

Results:
* `Site.holds_write`: a saved map is held by its file.
* `Site.Holds.opened_eq`, `Site.Holds.loaded_eq`: a file that holds a map is left alone.
* `Site.holds_loaded`: once its map is loaded, a file holds this map.
* `State.readText_eq`, `FaultStore.save_eq`: reading and saving are one request and its outcome.
* `FaultStore.ensures_attempt`: an attempt to save a map writes the file or leaves it as it is.
* `FaultStore.ensures_reopen`: what opening a store and loading its map comes to.
* `FruSensor.start_eq_reopen`, `FruSensor.ensures_start`: a sensor starts with the map of its file.
-/
namespace HealthAgent
open Program State

/-- The files by path, and the alerts handed over so far. -/
structure Site where
  files : String → Option ByteArray
  alerts : List AlertRecord

namespace Site

/-- What reading a file tells. -/
def content (site : Site) (path : String) : ReadAnswer :=
  match site.files path with
  | none => .absent
  | some bytes => .content bytes

def write (site : Site) (path : String) (bytes : ByteArray) : Site :=
  { site with files := fun p => if p = path then some bytes else site.files p }

def hand (site : Site) (alert : AlertRecord) : Site :=
  { site with alerts := site.alerts ++ [alert] }

/-- `Step given site r a site'`: on a site where files can be used and the service gives `given`, a
request `r` may be answered by `a`, which leaves `site'`. -/
def Step (given : Except SourceError (List Json)) (site : Site) :
    (r : Request) → r.Answer → Site → Prop
  | .records _ _, a, site' => a = given ∧ site' = site
  | .file (.makeFolder _), a, site' => a = true ∧ site' = site
  | .file (.load path), a, site' => a = site.content path ∧ site' = site
  | .file (.replace path bytes), a, site' => a = .written ∧ site' = site.write path bytes
  | .deliver alert, _, site' => site' = site.hand alert
  | .ipmi _, _, site' => site' = site
  | .clock, _, site' => site' = site
  | .salt, _, site' => site' = site

/-- `Attempt writable given site r a site'`: as in `Step`, but an attempt to replace a file may also
fail and leave it as it is, unless the site is `writable`. -/
def Attempt (writable : Prop) (given : Except SourceError (List Json)) (site : Site) :
    (r : Request) → r.Answer → Site → Prop
  | .file (.replace path bytes), a, site' =>
    (a = .written ∧ site' = site.write path bytes) ∨ (¬writable ∧ a ≠ .written ∧ site' = site)
  | r, a, site' => site.Step given r a site'

theorem Step.attempt {writable : Prop} {given : Except SourceError (List Json)} {site site' : Site}
    {r : Request} {a : r.Answer} (h : site.Step given r a site') :
    site.Attempt writable given r a site' := by
  cases r with
  | file r =>
    cases r with
    | replace path bytes => exact .inl h
    | _ => exact h
  | _ => exact h

/-- The text of a file, if there is one; a file that holds no text cannot be read. -/
def text (site : Site) (path : String) : Except StoreError (Option String) :=
  match site.files path with
  | none => .ok none
  | some bytes =>
    match String.fromUTF8? bytes with
    | some text => .ok (some text)
    | none => .error (.inputOutput path)

/-- The map that a store opened at a path loads. Nothing is remembered by a file that is absent,
blank or not the text of a map. -/
def memory (site : Site) (path : String) : Except StoreError FaultMap :=
  (site.text path).map fun text =>
    if (text.getD "").isAllBlank then ∅ else (FaultMap.decode? (text.getD "")).getD ∅

/-- The site after a store has been opened at a path: an absent or blank file is written. -/
def opened (site : Site) (path : String) : Site :=
  match site.text path with
  | .error _ => site
  | .ok text =>
    if (text.getD "").isAllBlank then site.write path (∅ : FaultMap).encode.toUTF8 else site

/-- The site after the map at a path has been loaded: a file that is not the text of a map is
replaced. -/
def loaded (site : Site) (path : String) : Site :=
  match site.text path with
  | .error _ => site
  | .ok text =>
    if (text.getD "").isAllBlank then site
    else
      match FaultMap.decode? (text.getD "") with
      | some _ => site
      | none => site.write path (∅ : FaultMap).encode.toUTF8

/-- `site.Holds path m`: the file at a path is read as the map `m`. -/
def Holds (site : Site) (path : String) (m : FaultMap) : Prop :=
  ∃ text, site.text path = .ok (some text) ∧ text.isAllBlank = false ∧
    FaultMap.decode? text = some m

theorem write_files (site : Site) (path : String) (bytes : ByteArray) :
    (site.write path bytes).files path = some bytes := if_pos rfl

@[simp] theorem write_alerts (site : Site) (path : String) (bytes : ByteArray) :
    (site.write path bytes).alerts = site.alerts := rfl

@[simp] theorem hand_alerts (site : Site) (alert : AlertRecord) :
    (site.hand alert).alerts = site.alerts ++ [alert] := rfl

theorem holds_write (site : Site) (path : String) (m : FaultMap) :
    (site.write path m.encode.toUTF8).Holds path m := by
  refine ⟨m.encode, ?_, m.encode_isAllBlank, m.decode?_encode⟩
  have hread : String.fromUTF8? m.encode.toUTF8 = some m.encode := fromUTF8?_toByteArray m.encode
  simp only [text, write_files, hread]

theorem Holds.memory_eq {site : Site} {path : String} {m : FaultMap} (h : site.Holds path m) :
    site.memory path = .ok m := by
  obtain ⟨text, htext, hblank, hdecode⟩ := h
  simp [memory, htext, hblank, hdecode, Except.map]

/-- A file that holds a map is left alone. -/
theorem Holds.opened_eq {site : Site} {path : String} {m : FaultMap} (h : site.Holds path m) :
    site.opened path = site := by
  obtain ⟨text, htext, hblank, -⟩ := h
  simp [opened, htext, hblank]

theorem Holds.loaded_eq {site : Site} {path : String} {m : FaultMap} (h : site.Holds path m) :
    site.loaded path = site := by
  obtain ⟨text, htext, hblank, hdecode⟩ := h
  simp [loaded, htext, hblank, hdecode]

theorem Holds.of_files {site site' : Site} {path : String} {m : FaultMap} (h : site.Holds path m)
    (hfiles : site'.files = site.files) : site'.Holds path m := by
  obtain ⟨text, htext, hdecode⟩ := h
  refine ⟨text, ?_, hdecode⟩
  rw [← htext]
  simp only [Site.text, hfiles]

theorem opened_alerts (site : Site) (path : String) : (site.opened path).alerts = site.alerts := by
  unfold opened
  split
  · rfl
  · split <;> rfl

theorem loaded_alerts (site : Site) (path : String) : (site.loaded path).alerts = site.alerts := by
  unfold loaded
  split
  · rfl
  · split
    · rfl
    · split <;> rfl

theorem memory_opened (site : Site) (path : String) :
    (site.opened path).memory path = site.memory path := by
  unfold opened
  split
  · rfl
  · next text htext =>
    split
    · next hblank =>
      rw [(holds_write site path ∅).memory_eq]
      simp [memory, htext, hblank, Except.map]
    · rfl

theorem holds_loaded {site : Site} {path : String} {m : FaultMap} (h : site.memory path = .ok m) :
    ((site.opened path).loaded path).Holds path m := by
  cases htext : site.text path with
  | error e => simp [memory, htext, Except.map] at h
  | ok text =>
    simp only [memory, htext, Except.map] at h
    by_cases hblank : (text.getD "").isAllBlank = true
    · have hopened : site.opened path = site.write path (∅ : FaultMap).encode.toUTF8 := by
        simp [opened, htext, hblank]
      have hheld := holds_write site path ∅
      rw [if_pos hblank] at h
      cases h
      rw [hopened, hheld.loaded_eq]
      exact hheld
    · have hopened : site.opened path = site := by simp [opened, htext, hblank]
      rw [if_neg hblank] at h
      rw [hopened, loaded]
      simp only [htext, if_neg hblank]
      cases hdecode : FaultMap.decode? (text.getD "") with
      | none =>
        rw [hdecode] at h
        cases h
        exact holds_write site path ∅
      | some m' =>
        rw [hdecode] at h
        cases h
        cases text with
        | none => exact absurd rfl hblank
        | some text => exact ⟨text, htext, by simpa using hblank, hdecode⟩

end Site

/-! ## One request and its outcome -/

/-- The text that the answer to reading a file stands for. -/
def ReadAnswer.text (path : String) : ReadAnswer → Except StoreError (Option String)
  | absent => .ok none
  | failed => .error (.inputOutput path)
  | content bytes =>
    match String.fromUTF8? bytes with
    | some text => .ok (some text)
    | none => .error (.inputOutput path)

theorem State.readText_eq (path : String) :
    readText path = .call (.file (.load path)) fun a => .done (a.text path) :=
  congrArg (Program.call _) (funext fun a => by cases a <;> rfl)

theorem Site.text_eq (site : Site) (path : String) :
    site.text path = (site.content path).text path := by
  unfold text content
  cases site.files path <;> rfl

/-- What the answer to replacing a file comes to. -/
def WriteAnswer.result (path : String) : WriteAnswer → Except StoreError Unit
  | written => .ok ()
  | noFolder => .error (.inputOutput (FilePath.folderText path))
  | refused => .error (.inputOutput path)

theorem WriteAnswer.result_eq_ok (path : String) (a : WriteAnswer) :
    a.result path = .ok () ↔ a = .written := by
  cases a <;> simp [result]

theorem FaultStore.save_eq (s : FaultStore) (m : FaultMap) :
    s.save m = .call (.file (.replace s.path m.encode.toUTF8)) fun a => .done (a.result s.path) :=
  congrArg (Program.call _) (funext fun a => by cases a <;> rfl)

/-! ## The store of a fault map -/

namespace FaultStore

variable {given : Except SourceError (List Json)} {I : Site → Prop} {site : Site}

theorem ensures_readText (hI : I site) (path : String) :
    Ensures (Site.Step given) I (readText path) site fun r site' =>
      r = site.text path ∧ site' = site := by
  rw [State.readText_eq, site.text_eq]
  apply Ensures.call hI
  rintro a site' ⟨rfl, rfl⟩
  exact .done hI ⟨rfl, rfl⟩

theorem ensures_save (hI : I site) (s : FaultStore) (m : FaultMap)
    (hsaved : I (site.write s.path m.encode.toUTF8)) :
    Ensures (Site.Step given) I (s.save m) site fun r site' =>
      r = .ok () ∧ site' = site.write s.path m.encode.toUTF8 := by
  rw [s.save_eq]
  apply Ensures.call hI
  rintro a site' ⟨rfl, rfl⟩
  exact .done hsaved ⟨rfl, rfl⟩

/-- An attempt to save a map: the file is written, or left as it is. -/
theorem ensures_attempt {writable : Prop} (hI : I site) (s : FaultStore) (m : FaultMap)
    (hsaved : I (site.write s.path m.encode.toUTF8)) :
    Ensures (Site.Attempt writable given) I (s.save m) site fun _ site' =>
      site' = site.write s.path m.encode.toUTF8 ∨ (¬writable ∧ site' = site) := by
  rw [s.save_eq]
  apply Ensures.call hI
  rintro a site' (⟨rfl, rfl⟩ | ⟨hwritable, -, rfl⟩)
  · exact .done hsaved (.inl rfl)
  · exact .done hI (.inr ⟨hwritable, rfl⟩)

theorem ensures_openIn (hI : I site) (folder name : String)
    (hopened : I (site.opened (joinPath folder name))) :
    Ensures (Site.Step given) I (openIn folder name) site fun r site' =>
      r = (site.text (joinPath folder name)).map (fun _ => ⟨joinPath folder name⟩) ∧
        site' = site.opened (joinPath folder name) := by
  apply Ensures.call hI
  rintro a site' ⟨rfl, rfl⟩
  apply Ensures.bind (ensures_readText hI _)
  rintro r site' ⟨rfl, rfl⟩
  unfold Site.opened at hopened ⊢
  cases htext : site'.text (joinPath folder name) with
  | error e => exact .done hI ⟨rfl, rfl⟩
  | ok text =>
    simp only [htext] at hopened ⊢
    split
    · next hblank =>
      rw [if_pos hblank] at hopened
      apply Ensures.bind (ensures_save hI ⟨joinPath folder name⟩ ∅ hopened)
      rintro r site'' ⟨rfl, rfl⟩
      exact .done hopened ⟨rfl, rfl⟩
    · exact .done hI ⟨rfl, rfl⟩

theorem ensures_load (hI : I site) (s : FaultStore) (hloaded : I (site.loaded s.path)) :
    Ensures (Site.Step given) I s.load site fun r site' =>
      r = site.memory s.path ∧ site' = site.loaded s.path := by
  apply Ensures.bind (ensures_readText hI _)
  rintro r site' ⟨rfl, rfl⟩
  unfold Site.loaded at hloaded ⊢
  unfold Site.memory
  cases htext : site'.text s.path with
  | error e => exact .done hI ⟨rfl, rfl⟩
  | ok text =>
    simp only [htext] at hloaded ⊢
    split
    · next hblank => exact .done hI ⟨by simp [Except.map, hblank], rfl⟩
    · next hblank =>
      rw [if_neg hblank] at hloaded
      cases hdecode : FaultMap.decode? (text.getD "") with
      | some m => exact .done hI ⟨by simp [Except.map, hblank, hdecode], rfl⟩
      | none =>
        rw [hdecode] at hloaded
        apply Ensures.bind (ensures_save hI s ∅ hloaded)
        rintro r site'' ⟨rfl, rfl⟩
        exact .done hloaded ⟨by simp [Except.map, hblank, hdecode], rfl⟩

/-- Opens the store in a folder and loads its map. -/
def reopen (folder name : String) : SensorProgram (Except StoreError (FaultStore × FaultMap)) := do
  match ← openIn folder name with
  | .error e => return .error e
  | .ok store => return (← store.load).map (store, ·)

theorem ensures_reopen (hI : I site) (folder name : String)
    (hopened : I (site.opened (joinPath folder name)))
    (hloaded : I ((site.opened (joinPath folder name)).loaded (joinPath folder name))) :
    Ensures (Site.Step given) I (reopen folder name) site fun r site' =>
      r = (site.memory (joinPath folder name)).map (⟨joinPath folder name⟩, ·) ∧
        site' = (site.opened (joinPath folder name)).loaded (joinPath folder name) := by
  apply Ensures.bind (ensures_openIn hI folder name hopened)
  rintro r site' ⟨rfl, rfl⟩
  cases htext : site.text (joinPath folder name) with
  | error e =>
    refine .done hopened ⟨?_, ?_⟩
    · simp [Site.memory, htext, Except.map]
    · simp [Site.opened, Site.loaded, htext]
  | ok text =>
    apply Ensures.bind (ensures_load hopened ⟨joinPath folder name⟩ hloaded)
    rintro r site' ⟨rfl, rfl⟩
    exact .done hloaded ⟨by rw [Site.memory_opened], rfl⟩

end FaultStore

namespace FruSensor

variable {given : Except SourceError (List Json)} {I : Site → Prop} {site : Site}

def storeIn (kind : FruKind) (folder : String) : FaultStore := ⟨joinPath folder kind.fileName⟩

/-- The file of the sensor holds what the sensor remembers. -/
def Kept (s : FruSensor) (site : Site) : Prop := site.Holds s.store.path s.faults

/-- A sensor starts with the store and the map of its file. -/
theorem start_eq_reopen (kind : FruKind) (folder : String) (context : AlertContext) :
    start kind folder context = (FaultStore.reopen folder kind.fileName).bind fun r =>
      .done (r.map fun (store, faults) => ⟨kind, store, faults, context⟩) := by
  simp only [start, FaultStore.reopen, bind_eq, pure_eq, Program.bind_assoc]
  congr 1
  funext r
  cases r with
  | error e => rfl
  | ok store =>
    simp only [Program.bind_assoc, bind_done]
    congr 1
    funext r
    cases r <;> rfl

theorem ensures_start (hI : I site) (kind : FruKind) (folder : String) (context : AlertContext)
    (hopened : I (site.opened (storeIn kind folder).path))
    (hloaded : I ((site.opened (storeIn kind folder).path).loaded (storeIn kind folder).path)) :
    Ensures (Site.Step given) I (start kind folder context) site fun r site' =>
      r = (site.memory (storeIn kind folder).path).map (⟨kind, storeIn kind folder, ·, context⟩) ∧
        site' = (site.opened (storeIn kind folder).path).loaded (storeIn kind folder).path := by
  rw [start_eq_reopen]
  apply Ensures.bind (FaultStore.ensures_reopen hI folder kind.fileName hopened hloaded)
  rintro r site' ⟨rfl, rfl⟩
  refine .done hloaded ⟨?_, rfl⟩
  change Except.map _ (Except.map _ (site.memory (storeIn kind folder).path)) = _
  cases site.memory (storeIn kind folder).path <;> rfl

end FruSensor
end HealthAgent
