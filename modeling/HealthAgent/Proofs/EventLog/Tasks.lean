import HealthAgent.Proofs.EventLog.Interruption
import HealthAgent.Proofs.EventLog.UsageCheck
/-!
# What the acts of a cycle are for

A cycle gets its lines, handles what its plan leaves to do, commits, and checks the usage. Each of these
makes requests of its own kind, so that an event tells what the cycle was about when it happened.

Results:
* `Only.events`: the events of a program that is limited to a kind of act.
* `runs_files`: a file that no event has replaced is what it was.
* `silent_of_tasks`: what does not serve to deliver alerts tells of no entry and no alert.
* `onlyFor_loadBuffer`, `onlyFor_dispatchEntry`, `onlyFor_commit`, `onlyFor_checkUsage`: what the
  requests of a cycle serve.
-/
namespace HealthAgent
open Program World

/-! ## Tasks -/

/-- What a request serves. -/
inductive Task where
  /-- To know the sensors. -/
  | start
  /-- To keep the state files. -/
  | store
  /-- To list the log. -/
  | list
  /-- To describe the sensor that an entry is about. -/
  | describe
  /-- To deliver an alert. -/
  | report
  /-- To keep the log from filling up. -/
  | usage
  deriving DecidableEq

def Request.task : Request → Task
  | .ipmi (.sensorsOfType _) | .records _ _ => .start
  | .file _ => .store
  | .ipmi .logList => .list
  | .ipmi (.sensor _) | .ipmi (.record _) => .describe
  | .clock | .salt | .deliver _ => .report
  | .ipmi .logInfo | .ipmi .logClear => .usage

def Act.task : Act → Task
  | .ask r => r.task
  | .plan _ _ | .handled _ => .report

namespace Event

/-- Whether a terminal failure has kept a sensor from being described. -/
def undescribed : Event → Bool
  | ⟨.ask (.ipmi (.sensor _)), .error e⟩ | ⟨.ask (.ipmi (.record _)), .error e⟩ => e.isTerminal
  | _ => false

theorem task_of_undescribed {ev : Event} (h : ev.undescribed = true) : ev.act.task = .describe := by
  unfold undescribed at h
  split at h
  · rfl
  · rfl
  · cases h

theorem undescribed_eq_false {ev : Event} (h : ev.act.task ≠ .describe) :
    ev.undescribed = false := by
  rw [← Bool.not_eq_true]
  exact fun hlost => h (task_of_undescribed hlost)

theorem writes_eq_false {ev : Event} (h : ev.act.task ≠ .store) (path : String) :
    ev.writes path = false := by
  unfold writes
  split
  · exact absurd rfl h
  · rfl

theorem silent {ev : Event} (h : ev.act.task ≠ .report) :
    ev.handled? = none ∧ ev.delivered? = none ∧ ev.planned = [] := by
  obtain ⟨a, r⟩ := ev
  cases a with
  | plan es p => exact absurd rfl h
  | handled u => exact absurd rfl h
  | ask q =>
    cases q with
    | deliver alert => exact absurd rfl h
    | _ => exact ⟨rfl, rfl, rfl⟩

end Event

theorem task_ne {evs : List Event} {ts : List Task} (h : ∀ ev ∈ evs, ev.act.task ∈ ts) {t : Task}
    (ht : t ∉ ts) : ∀ ev ∈ evs, ev.act.task ≠ t :=
  fun ev hev heq => ht (heq ▸ h ev hev)

/-- What does not serve to deliver alerts tells of no entry and no alert. -/
theorem silent_of_tasks {evs : List Event} (h : ∀ ev ∈ evs, ev.act.task ≠ .report) :
    handled evs = [] ∧ delivered evs = [] ∧ planned evs = [] := by
  refine ⟨?_, ?_, ?_⟩
  · exact List.filterMap_eq_nil_iff.2 fun ev hev => (Event.silent (h ev hev)).1
  · exact List.filterMap_eq_nil_iff.2 fun ev hev => (Event.silent (h ev hev)).2.1
  · exact List.flatMap_eq_nil_iff.2 fun ev hev => (Event.silent (h ev hev)).2.2

theorem UsageMonitor.Checked.tasks {m m' : UsageMonitor} {now : Nat} {evs : List Event}
    {r : Except SourceError Bool} (h : m.Checked now evs r m') :
    ∀ ev ∈ evs, ev.act.task = .usage := by
  cases h <;> simp [Act.task, Request.task]

/-! ## Events of limited programs -/

theorem World.events_append {u v w : World} {evs evs₁ evs₂ : List Event}
    (h : v.history = w.history ++ evs) (h₁ : u.history = w.history ++ evs₁)
    (h₂ : v.history = u.history ++ evs₂) : evs = evs₁ ++ evs₂ := by
  rw [h₁, List.append_assoc] at h₂
  exact List.append_cancel_left (h.symm.trans h₂)

section
variable {ρ : Rules} (hρ : ρ.Orderly) {α : Type} {p : ActProgram α} {w v : World} {o : Option α}
  {evs : List Event}
include hρ

omit hρ in
/-- An act that replaces no file at a path leaves the file there as it was. -/
theorem Rules.Step.files (hρ : ρ.Orderly) {a : Act} {r : a.Answer} (h : ρ.Step w a r v)
    {path : String} (hwrites : (Event.mk a r).writes path = false) : v.files path = w.files path := by
  obtain ⟨u, hdrift, -, -, rfl⟩ := h
  rw [files_after u a r path hwrites, (hρ w u hdrift).files]

theorem exists_events (h : Runs ρ.Step p w o v) : ∃ evs, v.history = w.history ++ evs := by
  obtain ⟨evs, hevs⟩ := runs_history hρ h
  exact ⟨evs, hevs.symm⟩

theorem Program.Only.events {P : Act → Prop} (hp : Only P p) (h : Runs ρ.Step p w o v)
    (hevs : v.history = w.history ++ evs) : ∀ ev ∈ evs, P ev.act := by
  have hkept : ∃ evs, v.history = w.history ++ evs ∧ ∀ ev ∈ evs, P ev.act := by
    refine (hp.ensures (I := fun u => ∃ evs, u.history = w.history ++ evs ∧ ∀ ev ∈ evs, P ev.act)
      ?_ ⟨[], by simp, by simp⟩ o v h).1
    rintro u a r u' ha ⟨evs, hhistory, hall⟩ hstep
    refine ⟨evs ++ [⟨a, r⟩], by rw [hstep.history hρ, hhistory, List.append_assoc], ?_⟩
    intro ev hev
    rcases List.mem_append.1 hev with hold | hnew
    · exact hall ev hold
    · rw [List.mem_singleton.1 hnew]
      exact ha
  obtain ⟨evs', hevs', hall⟩ := hkept
  rwa [List.append_cancel_left (hevs.symm.trans hevs')]

/-- A file that no event has replaced is what it was. -/
theorem runs_files {path : String} (h : Runs ρ.Step p w o v) (hevs : v.history = w.history ++ evs)
    (hwrites : ∀ ev ∈ evs, ev.writes path = false) : v.files path = w.files path := by
  have hkept : ∃ evs, v.history = w.history ++ evs ∧
      ((∀ ev ∈ evs, ev.writes path = false) → v.files path = w.files path) := by
    refine h.keeps (I := fun u => ∃ evs, u.history = w.history ++ evs ∧
      ((∀ ev ∈ evs, ev.writes path = false) → u.files path = w.files path)) ?_
      ⟨[], by simp, fun _ => rfl⟩
    rintro u a r u' ⟨evs, hhistory, hfiles⟩ hstep
    refine ⟨evs ++ [⟨a, r⟩], by rw [hstep.history hρ, hhistory, List.append_assoc], ?_⟩
    intro hnone
    rw [hstep.files hρ (hnone _ (by simp))]
    exact hfiles fun ev hev => hnone ev (List.mem_append_left _ hev)
  obtain ⟨evs', hevs', hfiles⟩ := hkept
  rw [← List.append_cancel_left (hevs.symm.trans hevs')] at hfiles
  exact hfiles hwrites

/-- A run whose events do not serve to keep the state files leaves all files as they were. -/
theorem runs_unstored (h : Runs ρ.Step p w o v) (hevs : v.history = w.history ++ evs)
    (htask : ∀ ev ∈ evs, ev.act.task ≠ .store) : v.files = w.files := by
  funext path
  exact runs_files hρ h hevs fun ev hev => Event.writes_eq_false (htask ev hev) path

end

/-! ## The tasks of a cycle -/

/-- All requests of a program serve some of these tasks. -/
abbrev OnlyFor {α : Type} (ts : List Task) (p : SensorProgram α) : Prop :=
  Only (fun r => r.task ∈ ts) p

namespace OnlyFor

variable {α : Type} {ts : List Task} {p : SensorProgram α}

theorem mono {ts' : List Task} (h : OnlyFor ts p) (hts : ts ⊆ ts') : OnlyFor ts' p :=
  h.imp fun _ hr => hts hr

theorem events (h : OnlyFor ts p) {ρ : Rules} (hρ : ρ.Orderly) {w v : World} {o : Option α}
    (hrun : Runs ρ.Step (acts p) w o v) {evs : List Event} (hevs : v.history = w.history ++ evs) :
    ∀ ev ∈ evs, ev.act.task ∈ ts := by
  have hacts : Only (fun a => a.task ∈ ts) (acts p) := Only.acts h fun _ hr => hr
  exact hacts.events hρ hrun hevs

end OnlyFor

theorem onlyFor_replaceText (path text : String) : OnlyFor [.store] (State.replaceText path text) :=
  ⟨.head _, fun a => by cases a <;> trivial⟩

theorem onlyFor_saveCursor (s : LogSensor) : OnlyFor [.store] s.saveCursor :=
  (onlyFor_replaceText _ _).bind fun r => by cases r <;> trivial

theorem onlyFor_retryCursor (s : LogSensor) : OnlyFor [.store] s.retryCursor := by
  unfold LogSensor.retryCursor
  split
  · exact onlyFor_saveCursor s
  · trivial

theorem onlyFor_readText (path : String) : OnlyFor [.store] (State.readText path) :=
  ⟨.head _, fun a => by cases a <;> trivial⟩

theorem onlyFor_pending (st : LogStore) : OnlyFor [.store] st.pending :=
  (onlyFor_readText _).bind fun _ => trivial

theorem onlyFor_loadBuffer (s : LogSensor) : OnlyFor [.store, .list] s.loadBuffer := by
  refine Only.bind ((onlyFor_pending s.store).mono (by simp)) fun r => ?_
  rcases r with e | _ | ⟨line, lines⟩
  · trivial
  · refine ⟨.tail _ (.head _), fun a => ?_⟩
    cases a with
    | error e => trivial
    | ok text => exact ((onlyFor_replaceText _ _).mono (by simp)).bind fun _ => trivial
  · trivial

theorem onlyFor_eventTimeOf (zone : Calendar.Zone) (entry : LogEntry) :
    OnlyFor [.report] (Device.eventTimeOf zone entry) := by
  unfold Device.eventTimeOf
  split
  · trivial
  · exact ⟨.head _, fun _ => trivial⟩

theorem onlyFor_dispatchEntry (s : LogSensor) (u : TailPlan.Unseen) :
    OnlyFor [.describe, .report] (s.dispatchEntry u) := by
  unfold LogSensor.dispatchEntry
  split
  · trivial
  rename_i device sensorId _
  refine Only.bind ?_ fun r => ?_
  · unfold Device.draft
    split
    · trivial
    refine Only.bind ?_ fun r => ?_
    · cases device <;> exact ⟨.head _, fun a => by cases a <;> trivial⟩
    cases r with
    | error e => trivial
    | ok props =>
      have htime := (onlyFor_eventTimeOf s.zone u.entry).mono (List.subset_cons_self .describe _)
      exact Only.bind htime fun _ => trivial
  · rcases r with e | _ | draft
    · trivial
    · trivial
    · exact ⟨.tail _ (.head _), fun _ => ⟨.tail _ (.head _), fun _ => trivial⟩⟩

theorem onlyFor_commit (s : LogSensor) (plan : TailPlan) : OnlyFor [.store] (s.commit plan) := by
  have hclear : ∀ t : LogSensor, OnlyFor [.store] (t.store.clearPending.bind fun _ => .done t) :=
    fun t => (onlyFor_replaceText _ _).bind fun _ => trivial
  unfold LogSensor.commit
  cases plan.nextCursor with
  | none => exact hclear s
  | some index => exact Only.bind (onlyFor_saveCursor { s with cursor := index }) hclear

theorem onlyFor_checkUsage (s : LogSensor) (now : Nat) :
    OnlyFor [.usage, .store] (s.checkUsage now) := by
  refine Only.bind ?_ fun r => ?_
  · unfold UsageMonitor.check
    split
    · trivial
    refine ⟨.head _, fun a => ?_⟩
    cases a with
    | error e => trivial
    | ok text =>
      simp only [bind_done, bind_eq]
      split
      · trivial
      split
      · trivial
      exact ⟨.head _, fun a => by cases a <;> trivial⟩
  · obtain ⟨e | _ | _, usage⟩ := r
    · trivial
    · trivial
    · have hsave := (onlyFor_saveCursor { s with usage, cursor := 0 }).mono
        (List.subset_cons_self .usage _)
      exact Only.bind hsave fun _ => trivial

end HealthAgent
