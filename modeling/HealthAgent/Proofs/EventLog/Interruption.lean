import HealthAgent.Proofs.EventLog.Completed
import HealthAgent.Proofs.EventLog.FixedReplies
import HealthAgent.Proofs.Program.Twins
/-!
# What an interrupted cycle leaves behind

A cycle that puts the log into the buffer has found the buffer empty: one that finds something there
replaces the buffer file at most by an empty one, however far it gets. So if a process crashes with
the text of the log as its only change of a file, then the log was put into an empty buffer, and the
cursor file is as it was.

Results:
* `Rules.Still.files`: the files are those that were replaced last.
* `only_handleActs`, `only_checkUsage`: a cycle that has its lines puts nothing into the buffer.
* `ensures_pollActs_spared`: nor does a cycle that finds something there.
* `interrupted_files`: what a crash leaves behind between the filling of the buffer and the commit.
-/
namespace HealthAgent
open Program World

variable {ipmi : IpmiRequest → Except SourceError String}

/-! ## Replaced files -/

/-- The file that has been replaced, with its new content, if the event tells of one. -/
def Event.replaced? : Event → Option (String × ByteArray)
  | ⟨.ask (.file (.replace path bytes)), .written⟩ => some (path, bytes)
  | _ => none

/-- The files that have been replaced, with their new contents, in order. -/
def replacements (evs : List Event) : List (String × ByteArray) := evs.filterMap Event.replaced?

/-- A file with its new content. -/
def overwrite (files : String → Option ByteArray) (r : String × ByteArray) :
    String → Option ByteArray :=
  fun path => if path = r.1 then some r.2 else files path

/-- The files are those that were replaced last, and else as they were. -/
theorem Rules.Still.files {ρ : Rules} (hρ : ρ.Still) {α : Type} {p : ActProgram α} {w v : World}
    {o : Option α} (h : Runs ρ.Step p w o v) {evs : List Event}
    (hevs : v.history = w.history ++ evs) :
    v.files = (replacements evs).foldl overwrite w.files := by
  have hkept : ∃ evs, v.history = w.history ++ evs ∧
      v.files = (replacements evs).foldl overwrite w.files := by
    refine h.keeps (I := fun v => ∃ evs, v.history = w.history ++ evs ∧
      v.files = (replacements evs).foldl overwrite w.files) ?_ ⟨[], by simp, rfl⟩
    rintro u a r u' ⟨evs, hhistory, hfiles⟩ ⟨t, hdrift, -, -, rfl⟩
    rw [hρ u t hdrift]
    refine ⟨evs ++ [⟨a, r⟩], by simp [World.after, hhistory], ?_⟩
    rw [replacements, List.filterMap_append, List.foldl_append, ← replacements, ← hfiles]
    simp only [World.after]
    unfold filesAfter
    split
    · rfl
    · next hother =>
      have hnone : Event.replaced? ⟨a, r⟩ = none := by
        unfold Event.replaced?
        split
        · next heq =>
          cases heq
          exact (hother _ _ rfl .rfl).elim
        · rfl
      simp [hnone]
  obtain ⟨evs', hevs', hfiles⟩ := hkept
  rw [hevs] at hevs'
  rw [hfiles, List.append_cancel_left hevs']

/-- A request that leaves the file at a path alone, or replaces it by an empty one. -/
def Request.Spares (path : String) : Request → Prop
  | .file (.replace p bytes) => p = path → bytes = "".toUTF8
  | _ => True

/-- An act that leaves the file at a path alone, or replaces it by an empty one. -/
def Act.Spares (path : String) : Act → Prop
  | .ask r => r.Spares path
  | _ => True

theorem Program.Only.acts {α : Type} {P : Request → Prop} {P' : Act → Prop} {p : SensorProgram α}
    (h : Only P p) (hP : ∀ r, P r → P' (.ask r)) : Only P' (HealthAgent.acts p) := by
  have hask : ∀ r : Request, P r → Only P' (Program.ask (Act.ask r) : ActProgram r.Answer) :=
    fun r hr => ⟨hP r hr, fun _ => trivial⟩
  exact h.translate hask

section
variable (path : String)

theorem only_acts {α : Type} {p : SensorProgram α} (h : Only (Request.Spares path) p) :
    Only (Act.Spares path) (acts p) := h.acts fun _ hr => hr

theorem only_describe (d : Device) (sensorId : String) :
    Only (Request.Spares path) (d.describe sensorId) := by
  cases d <;> exact ⟨trivial, fun a => by cases a <;> trivial⟩

theorem only_draft (d : Device) (zone : Calendar.Zone) (entry : LogEntry) (sensorId : String)
    (terminal : Bool) : Only (Request.Spares path) (d.draft zone entry sensorId terminal) := by
  unfold Device.draft
  split
  · trivial
  refine Only.bind (only_describe path d sensorId) fun r => ?_
  cases r with
  | error e => trivial
  | ok props =>
    refine Only.bind ?_ fun _ => trivial
    unfold Device.eventTimeOf
    split
    · trivial
    · exact ⟨trivial, fun _ => trivial⟩

theorem only_dispatchEntry (s : LogSensor) (u : TailPlan.Unseen) :
    Only (Request.Spares path) (s.dispatchEntry u) := by
  unfold LogSensor.dispatchEntry
  split
  · trivial
  refine Only.bind (only_draft path _ _ _ _ _) fun r => ?_
  rcases r with e | _ | draft
  · trivial
  · trivial
  · exact ⟨trivial, fun _ => ⟨trivial, fun _ => trivial⟩⟩

theorem only_dispatchActs (s : LogSensor) (us : List TailPlan.Unseen) :
    Only (Act.Spares path) (s.dispatchActs us) := by
  induction us with
  | nil => trivial
  | cons u us ih =>
    refine Only.bind (only_acts path (only_dispatchEntry path s u)) fun r => ?_
    cases r with
    | error e => trivial
    | ok x => exact ⟨trivial, fun _ => ih⟩

end

theorem only_saveCursor (s : LogSensor) (hst : s.store.Apart) :
    Only (Request.Spares s.store.pendingPath) s.saveCursor :=
  ⟨fun h => absurd h hst, fun a => by cases a <;> trivial⟩

theorem only_commit (s : LogSensor) (hst : s.store.Apart) (plan : TailPlan) :
    Only (Request.Spares s.store.pendingPath) (s.commit plan) := by
  have hclear : ∀ t : LogSensor, Only (Request.Spares s.store.pendingPath)
      (t.store.clearPending.bind fun _ => .done t) :=
    fun t => ⟨fun _ => rfl, fun a => by cases a <;> trivial⟩
  unfold LogSensor.commit
  cases plan.nextCursor with
  | none => exact hclear s
  | some index =>
    exact Only.bind (only_saveCursor { s with cursor := index } hst) hclear

/-- A cycle that has its lines puts nothing into the buffer. -/
theorem only_handleActs (s : LogSensor) (hst : s.store.Apart) (lines : List String) :
    Only (Act.Spares s.store.pendingPath) (s.handleActs lines) := by
  refine ⟨trivial, fun _ => ?_⟩
  simp only [bind_done]
  refine Only.bind (only_dispatchActs _ s _) fun r => ?_
  cases r with
  | error e => trivial
  | ok x => exact Only.bind (only_acts _ (only_commit s hst _)) fun _ => trivial

theorem only_checkUsage (s : LogSensor) (hst : s.store.Apart) (now : Nat) :
    Only (Request.Spares s.store.pendingPath) (s.checkUsage now) := by
  refine Only.bind ?_ fun r => ?_
  · unfold UsageMonitor.check
    split
    · trivial
    refine ⟨trivial, fun a => ?_⟩
    cases a with
    | error e => trivial
    | ok text =>
      simp only [bind_done, bind_eq]
      split
      · trivial
      split
      · trivial
      exact ⟨trivial, fun a => by cases a <;> trivial⟩
  · obtain ⟨e | _ | _, usage⟩ := r
    · trivial
    · trivial
    · exact Only.bind (only_saveCursor { s with usage, cursor := 0 } hst) fun _ => trivial

/-- The buffer file has not been replaced, but for emptying it. -/
def World.Spared (path : String) (w v : World) : Prop :=
  ∃ evs, v.history = w.history ++ evs ∧ ∀ r ∈ replacements evs, r.1 = path → r.2 = "".toUTF8

theorem World.Spared.step {path : String} {w u v : World} {a : Act} {r : a.Answer}
    (h : w.Spared path u) (hact : a.Spares path) (hstep : (Rules.replying ipmi).Step u a r v) :
    w.Spared path v := by
  obtain ⟨evs, hevs, hspared⟩ := h
  obtain ⟨rfl, -⟩ := hstep.replying
  refine ⟨evs ++ [⟨a, r⟩], by simp [World.after, hevs], ?_⟩
  intro change hmem
  rw [replacements, List.filterMap_append, List.mem_append] at hmem
  rcases hmem with hold | hnew
  · exact hspared change hold
  · obtain ⟨ev, hev, hchange⟩ := List.mem_filterMap.1 hnew
    obtain rfl := List.mem_singleton.1 hev
    unfold Event.replaced? at hchange
    split at hchange
    · next path' bytes heq =>
      cases heq
      cases hchange
      exact hact
    · cases hchange

theorem World.Spared.refl (path : String) (w : World) : w.Spared path w :=
  ⟨[], by simp, by simp [replacements]⟩

/-- A program that puts nothing into the buffer spares it. -/
theorem Program.Only.spared {α : Type} {path : String} {p : ActProgram α}
    (hp : Only (Act.Spares path) p) {w v : World} (hv : w.Spared path v) :
    Ensures (Rules.replying ipmi).Step (w.Spared path) p v fun _ => w.Spared path := by
  refine hp.ensures ?_ hv
  intro u a r u' hact hu hstep
  exact hu.step hact hstep

section
variable (s : LogSensor) (hst : s.store.Apart) {w : World}

/-- A buffer that holds something is loaded and left as it is. -/
theorem ensures_loadBuffer_spared
    (hleft : (w.text? s.store.pendingPath).map (·.writtenLines) ≠ some []) :
    Ensures (Rules.replying ipmi).Step (w.Spared s.store.pendingPath) (acts s.loadBuffer) w
      fun _ => w.Spared s.store.pendingPath := by
  have hread : Only (Act.Spares s.store.pendingPath) (acts s.store.pending) :=
    only_acts _ ⟨trivial, fun a => by rcases a with _ | _ | bytes <;> trivial⟩
  refine Ensures.acts_bind ((hread.spared (.refl _ w)).and (yields_pending s.store w)) ?_
  rintro r v ⟨hv, hlines, -⟩
  rw [← hlines] at hleft
  rcases r with e | _ | ⟨line, lines⟩
  · exact .done hv hv
  · exact absurd rfl hleft
  · exact .done hv hv

include hst

theorem ensures_processActs_spared (hsaved : s.cursorUnsaved = false)
    (hleft : (w.text? s.store.pendingPath).map (·.writtenLines) ≠ some []) :
    Ensures (Rules.replying ipmi).Step (w.Spared s.store.pendingPath) s.processActs w
      fun a v => a.2.store = s.store ∧ w.Spared s.store.pendingPath v := by
  have hretry : s.retryCursor = .done s := by simp [LogSensor.retryCursor, hsaved]
  unfold LogSensor.processActs
  rw [hretry]
  refine (ensures_loadBuffer_spared s hleft).bind fun r v hv => ?_
  rcases r with e | _ | lines
  · exact .done hv ⟨rfl, hv⟩
  · exact .done hv ⟨rfl, hv⟩
  · refine (((only_handleActs s hst lines).spared hv).and
      (ensures_handled (Rules.replying_still ipmi).orderly s hst lines v)).mono (fun _ h => h) ?_
    rintro a u - ⟨hu, ⟨unsaved, alerts, rfl, -⟩ | ⟨e, handled, alerts, rfl, -⟩⟩
    · exact ⟨rfl, hu⟩
    · exact ⟨rfl, hu⟩

/-- A cycle that finds something in the buffer puts nothing into it. -/
theorem ensures_pollActs_spared (hsaved : s.cursorUnsaved = false) (now : Nat)
    (hleft : (w.text? s.store.pendingPath).map (·.writtenLines) ≠ some []) :
    Ensures (Rules.replying ipmi).Step (w.Spared s.store.pendingPath) (s.pollActs now) w
      fun _ => w.Spared s.store.pendingPath := by
  refine (ensures_processActs_spared s hst hsaved hleft).bind fun a v ⟨hstore, hv⟩ => ?_
  obtain ⟨e | x, t⟩ := a
  · exact .done hv hv
  · have hcheck := only_checkUsage t (hstore ▸ hst) now
    rw [hstore] at hcheck
    exact ((only_acts _ hcheck).spared hv).bind fun _ _ hu => .done hu hu

end

/-- What a crash leaves behind that falls after the log was put into the buffer and before the
commit: the buffer, which was empty, holds the text of the log, and no other file has changed. -/
theorem interrupted_files {s : LogSensor} (hst : s.store.Apart) (hsaved : s.cursorUnsaved = false)
    {w v : World} (hlog : w.log.writtenLines ≠ []) {now : Nat} {o : Option (Outcome × LogSensor)}
    (hrun : Runs (Rules.replying ipmi).Step (s.pollActs now) w o v) {evs : List Event}
    (hevs : v.history = w.history ++ evs)
    (hcut : replacements evs = [(s.store.pendingPath, w.log.toUTF8)]) :
    (w.text? s.store.pendingPath).map (·.writtenLines) = some [] ∧
      v.text? s.store.pendingPath = some w.log ∧
      v.text? s.store.cursorPath = w.text? s.store.cursorPath := by
  have hfiles := (Rules.replying_still ipmi).files hrun hevs
  rw [hcut] at hfiles
  refine ⟨?_, ?_, ?_⟩
  · by_contra hleft
    obtain ⟨evs', hevs', hspared⟩ := (ensures_pollActs_spared s hst hsaved now hleft o v hrun).1
    rw [hevs] at hevs'
    rw [← List.append_cancel_left hevs', hcut] at hspared
    have hnone : w.log.toUTF8 = "".toUTF8 := hspared _ (List.mem_singleton_self _) rfl
    have hlogs : some w.log = some "" := by
      rw [← fromUTF8?_toByteArray w.log, ← fromUTF8?_toByteArray ""]
      exact congrArg String.fromUTF8? hnone
    rw [Option.some.inj hlogs] at hlog
    exact hlog rfl
  · simp [World.text?, hfiles, overwrite, fromUTF8?_toByteArray]
  · have hne : s.store.cursorPath ≠ s.store.pendingPath := hst
    simp [World.text?, hfiles, overwrite, hne]

end HealthAgent
