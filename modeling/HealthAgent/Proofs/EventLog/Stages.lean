import HealthAgent.Proofs.EventLog.Tasks
/-!
# The stages of a cycle

A cycle gets its lines, handles the entries that its plan leaves to do, commits, and checks the usage.
A completed cycle has gone through some of these stages, and its events are those of the stages one
after the other. Where a request fails, the events end with it, or the stage goes on without.

Results:
* `runs_loadBuffer`, `runs_dispatchActs`: how getting the lines, and handling entries, comes to its end.
* `runs_handleActs`, `runs_processActs`: how a cycle has got to the check of the usage.
* `runs_checkUsage_failed`: what the check of the usage leaves if one of its requests fails.
* `runs_pollActs`: a completed cycle has got to the check of the usage and through it, or failed before.
-/
namespace HealthAgent
open Program World

/-! ## Getting the lines -/

/-- How a completed getting of the lines has gone, by its events and its end. -/
inductive LogSensor.Loaded (s : LogSensor) (w v : World) :
    List Event → Except SourceError (Option (List String)) → Prop
  | unreadable (a : ReadAnswer) (kept : v.files = w.files)
      (illegible : Event.legible ⟨.ask (.file (.load s.store.pendingPath)), a⟩ = false) :
      Loaded s w v [⟨.ask (.file (.load s.store.pendingPath)), a⟩] (.ok none)
  | recovered (a : ReadAnswer) (kept : v.files = w.files) (left : w.buffer s.store ≠ []) :
      Loaded s w v [⟨.ask (.file (.load s.store.pendingPath)), a⟩] (.ok (some (w.buffer s.store)))
  | unlisted (a : ReadAnswer) (kept : v.files = w.files) (empty : w.buffer s.store = [])
      (e : SourceError) :
      Loaded s w v [⟨.ask (.file (.load s.store.pendingPath)), a⟩, ⟨.ask (.ipmi .logList), .error e⟩]
        (.error e)
  | fetched (a : ReadAnswer) (kept : v.files s.store.cursorPath = w.files s.store.cursorPath)
      (empty : w.buffer s.store = []) (text : String) (b : WriteAnswer)
      (stored : b = .written → v.buffer s.store = text.writtenLines) :
      Loaded s w v [⟨.ask (.file (.load s.store.pendingPath)), a⟩,
        ⟨.ask (.ipmi .logList), .ok text⟩,
        ⟨.ask (.file (.replace s.store.pendingPath text.toUTF8)), b⟩] (.ok (some text.writtenLines))

section
variable {ρ : Rules} (hρ : ρ.Orderly) {w v : World}
include hρ

theorem runs_pending {st : LogStore} {r : Except StoreError (List String)}
    (h : Runs ρ.Step (acts st.pending) w (some r) v) :
    ∃ a, v.history = w.history ++ [⟨.ask (.file (.load st.pendingPath)), a⟩] ∧ v.files = w.files ∧
      ((∃ e, r = .error e) ∧ Event.legible ⟨.ask (.file (.load st.pendingPath)), a⟩ = false ∨
        r = .ok (w.buffer st)) := by
  obtain ⟨-, hlines, -⟩ := (ensures_pending hρ st w _ v h).2 r rfl
  obtain ⟨a, u, hstep, hrest⟩ := h.of_call
  have hhistory := hstep.history hρ
  have hfiles : u.files = w.files := funext fun _ => hstep.files hρ rfl
  cases a with
  | failed =>
    obtain ⟨rfl, rfl⟩ := hrest.of_done
    exact ⟨_, hhistory, hfiles, .inl ⟨⟨_, rfl⟩, rfl⟩⟩
  | absent =>
    obtain ⟨rfl, rfl⟩ := hrest.of_done
    exact ⟨_, hhistory, hfiles, .inr (congrArg _ (hlines _ rfl))⟩
  | content bytes =>
    obtain ⟨hr, rfl⟩ := hrest.of_done
    refine ⟨_, hhistory, hfiles, ?_⟩
    cases hb : String.fromUTF8? bytes with
    | none =>
      rw [hb] at hr
      cases hr
      exact .inl ⟨⟨_, rfl⟩, by simp [Event.legible, hb]⟩
    | some text =>
      rw [hb] at hr
      cases hr
      exact .inr (congrArg _ (hlines _ rfl))

/-- How a completed getting of the lines has gone. -/
theorem runs_loadBuffer {s : LogSensor} (hst : s.store.Apart)
    {r : Except SourceError (Option (List String))}
    (h : Runs ρ.Step (acts s.loadBuffer) w (some r) v) :
    ∃ evs, v.history = w.history ++ evs ∧ s.Loaded w v evs r := by
  unfold LogSensor.loadBuffer at h
  rw [bind_eq, acts_bind] at h
  obtain ⟨r₁, u, hpending, h⟩ := h.of_bind
  obtain ⟨a, hhistory, hfiles, ⟨⟨e, rfl⟩, hillegible⟩ | rfl⟩ := runs_pending hρ hpending
  · obtain ⟨rfl, rfl⟩ := h.of_done
    exact ⟨_, hhistory, .unreadable a hfiles hillegible⟩
  cases hbuffer : w.buffer s.store with
  | cons line lines =>
    rw [hbuffer] at h
    obtain ⟨rfl, rfl⟩ := h.of_done
    refine ⟨_, hhistory, ?_⟩
    rw [← hbuffer]
    exact .recovered a hfiles (by rw [hbuffer]; exact List.cons_ne_nil _ _)
  | nil =>
    rw [hbuffer] at h
    obtain ⟨listed, u₁, hlist, h⟩ := h.of_call
    have hhistory₁ := hlist.history hρ
    rw [hhistory, List.append_assoc] at hhistory₁
    cases listed with
    | error e =>
      obtain ⟨rfl, rfl⟩ := h.of_done
      have hfiles₁ : v.files = u.files := funext fun _ => hlist.files hρ rfl
      exact ⟨_, hhistory₁, .unlisted a (hfiles₁.trans hfiles) hbuffer e⟩
    | ok text =>
      obtain ⟨b, u₂, hstore, h⟩ := h.of_call
      have hhistory₂ := hstore.history hρ
      rw [hhistory₁, List.append_assoc] at hhistory₂
      have hend : .ok (some text.writtenLines) = r ∧ v = u₂ := by cases b <;> exact h.of_done
      obtain ⟨rfl, rfl⟩ := hend
      refine ⟨_, hhistory₂, .fetched a ?_ hbuffer text b ?_⟩
      · rw [hstore.files hρ (by cases b <;> simp [Event.writes, Ne.symm hst]), hlist.files hρ rfl,
          hfiles]
      · rintro rfl
        obtain ⟨bytes, hm⟩ := hstore.stores hρ hst
        exact hm.buffer

end

namespace LogSensor.Loaded

variable {s : LogSensor} {w v : World} {evs : List Event}

theorem tasks {r : Except SourceError (Option (List String))} (h : s.Loaded w v evs r) :
    ∀ ev ∈ evs, ev.act.task ∈ [.store, .list] := by
  cases h <;> simp [Act.task, Request.task]

theorem cursor {r : Except SourceError (Option (List String))} (h : s.Loaded w v evs r) :
    v.files s.store.cursorPath = w.files s.store.cursorPath := by
  cases h with
  | fetched a hkept => exact hkept
  | _ a hfiles => rw [hfiles]

/-- The buffer holds the lines that were in it before or have been put into it. -/
theorem buffer {lines : List String} (h : s.Loaded w v evs (.ok (some lines)))
    (hkept : w.buffer s.store ≠ [] ∨ ∃ ev ∈ evs, ev.writes s.store.pendingPath = true) :
    v.buffer s.store = lines := by
  cases h with
  | recovered a hfiles hleft => simp only [World.buffer, hfiles]
  | fetched a hcursor hempty text b hstored =>
    obtain ⟨ev, hev, hwrites⟩ := hkept.resolve_left (not_not_intro hempty)
    simp only [List.mem_cons, List.not_mem_nil, or_false] at hev
    rcases hev with rfl | rfl | rfl
    · cases hwrites
    · cases hwrites
    · cases b with
      | written => exact hstored rfl
      | noFolder => cases hwrites
      | refused => cases hwrites

end LogSensor.Loaded

/-! ## Handling the entries -/

/-- How a stretch of acts about one entry comes to its end: no description of a sensor is missing, or
one is and that is all. -/
def World.Described {α : Type} (w v : World) (r : Except SourceError α) : Prop :=
  ∃ evs, v.history = w.history ++ evs ∧
    ((∃ a, r = .ok a) ∧ (∀ ev ∈ evs, ev.undescribed = false) ∨
      ∃ e ev, r = .error e ∧ e.isTerminal = true ∧ ev.undescribed = true ∧ evs = [ev])

theorem World.Described.of_ok {α : Type} {w : World} (a : α) :
    w.Described w (.ok a : Except SourceError α) :=
  ⟨[], by simp, .inl ⟨⟨a, rfl⟩, by simp⟩⟩

theorem World.Described.error {α β : Type} {w v : World} {e : SourceError}
    (h : w.Described v (.error e : Except SourceError α)) :
    w.Described v (.error e : Except SourceError β) := by
  obtain ⟨evs, hevs, ⟨⟨a, ha⟩, -⟩ | ⟨e', ev, he, hlost⟩⟩ := h
  · cases ha
  · cases he
    exact ⟨evs, hevs, .inr ⟨e, ev, rfl, hlost⟩⟩

/-- What follows a description that was had, without asking for another. -/
theorem World.Described.trans {α β : Type} {w u v : World} {a : α} {b : β}
    (h : w.Described u (.ok a : Except SourceError α)) {evs : List Event}
    (hevs : v.history = u.history ++ evs) (htask : ∀ ev ∈ evs, ev.act.task ≠ .describe) :
    w.Described v (.ok b : Except SourceError β) := by
  obtain ⟨evs₁, hevs₁, ⟨-, hnone⟩ | ⟨e, -, hr, -⟩⟩ := h
  · refine ⟨evs₁ ++ evs, by rw [hevs, hevs₁, List.append_assoc], .inl ⟨⟨b, rfl⟩, ?_⟩⟩
    intro ev hev
    rcases List.mem_append.1 hev with hfirst | hlater
    · exact hnone ev hfirst
    · exact Event.undescribed_eq_false (htask ev hlater)
  · cases hr

section
variable {ρ : Rules} (hρ : ρ.Orderly) {w v : World}
include hρ

theorem runs_describe {d : Device} {sensorId : String} {r : Except SourceError SensorProps}
    (h : Runs ρ.Step (acts (d.describe sensorId)) w (some r) v) : w.Described v r := by
  rw [d.describe_eq] at h
  obtain ⟨reply, u, hstep, hrest⟩ := h.of_call
  obtain ⟨rfl, rfl⟩ := hrest.of_done
  have hlost : ∀ e, Event.undescribed ⟨.ask (.ipmi (d.request sensorId)), .error e⟩ = e.isTerminal :=
    fun e => by cases d <;> rfl
  refine ⟨_, hstep.history hρ, ?_⟩
  cases hread : d.read reply with
  | error e =>
    obtain ⟨rfl, hterminal⟩ := Device.read_eq_error hread
    exact .inr ⟨e, _, rfl, hterminal, (hlost e).trans hterminal, rfl⟩
  | ok props =>
    refine .inl ⟨⟨props, rfl⟩, List.forall_mem_singleton.2 ?_⟩
    cases reply with
    | ok text => cases d <;> rfl
    | error e =>
      rw [hlost e, ← Bool.not_eq_true]
      intro hterminal
      rw [Device.read, if_pos hterminal] at hread
      cases hread

theorem runs_draft {d : Device} {zone : Calendar.Zone} {entry : LogEntry} {sensorId : String}
    {terminal : Bool} {r : Except SourceError (Option AlertDraft)}
    (h : Runs ρ.Step (acts (d.draft zone entry sensorId terminal)) w (some r) v) :
    w.Described v r := by
  unfold Device.draft at h
  split at h
  · obtain ⟨rfl, rfl⟩ := h.of_done
    exact .of_ok none
  rw [bind_eq, acts_bind] at h
  obtain ⟨r₁, u, hdescribe, h⟩ := h.of_bind
  have hdescribed := runs_describe hρ hdescribe
  cases r₁ with
  | error e =>
    obtain ⟨rfl, rfl⟩ := h.of_done
    exact hdescribed.error
  | ok props =>
    dsimp only at h
    rw [bind_eq, acts_bind] at h
    obtain ⟨time, u₁, htime, h⟩ := h.of_bind
    obtain ⟨rfl, rfl⟩ := h.of_done
    obtain ⟨evs, hevs⟩ := exists_events hρ htime
    exact hdescribed.trans hevs
      (task_ne ((onlyFor_eventTimeOf zone entry).events hρ htime hevs) (by decide))

theorem runs_entryDescribed {s : LogSensor} {x : TailPlan.Unseen} {r : Except SourceError Unit}
    (h : Runs ρ.Step (acts (s.dispatchEntry x)) w (some r) v) : w.Described v r := by
  unfold LogSensor.dispatchEntry at h
  split at h
  · obtain ⟨rfl, rfl⟩ := h.of_done
    exact .of_ok ()
  rw [bind_eq, acts_bind] at h
  obtain ⟨r₁, u, hdraft, h⟩ := h.of_bind
  have hdescribed := runs_draft hρ hdraft
  rcases r₁ with e | _ | draft
  · obtain ⟨rfl, rfl⟩ := h.of_done
    exact hdescribed.error
  · obtain ⟨rfl, rfl⟩ := h.of_done
    exact hdescribed.trans (List.append_nil _).symm (by simp)
  · obtain ⟨salt, u₁, hsalt, h⟩ := h.of_call
    obtain ⟨taken, u₂, hdeliver, h⟩ := h.of_call
    obtain ⟨rfl, rfl⟩ := h.of_done
    have hevs := hdeliver.history hρ
    rw [hsalt.history hρ, List.append_assoc] at hevs
    exact hdescribed.trans hevs (by simp [Act.task, Request.task])

end

/-- These events tell of these entries and of nothing else: each is described, reported and handled. -/
structure LogSensor.Handled (s : LogSensor) (es : List LogEntry) (evs : List Event) : Prop where
  handled : handled evs = es
  alerts : s.AlertsFor es (delivered evs)
  planned : planned evs = []
  tasks : ∀ ev ∈ evs, ev.act.task ∈ [.describe, .report]
  described : ∀ ev ∈ evs, ev.undescribed = false

/-- How a completed handling of entries has gone, by its events and its end. -/
inductive LogSensor.Dispatched (s : LogSensor) (us : List TailPlan.Unseen) :
    List Event → Except SourceError Unit → Prop
  | through {evs : List Event} (handled : s.Handled (us.map (·.entry)) evs) :
      Dispatched s us evs (.ok ())
  /-- The sensor of the entry `x` could not be described. -/
  | stopped {evs : List Event} {ev : Event} {e : SourceError} {before after : List TailPlan.Unseen}
      {x : TailPlan.Unseen} (unseen : us = before ++ x :: after)
      (handled : s.Handled (before.map (·.entry)) evs) (terminal : e.isTerminal = true)
      (undescribed : ev.undescribed = true) : Dispatched s us (evs ++ [ev]) (.error e)

namespace LogSensor

variable {s : LogSensor}

theorem Handled.nil : s.Handled [] [] := ⟨rfl, .nil, rfl, by simp, by simp⟩

theorem Handled.append {es es' : List LogEntry} {evs evs' : List Event} (h : s.Handled es evs)
    (h' : s.Handled es' evs') : s.Handled (es ++ es') (evs ++ evs') where
  handled := by rw [handled_append, h.handled, h'.handled]
  alerts := by rw [delivered_append]; exact h.alerts.append h'.alerts
  planned := by rw [planned_append, h.planned, h'.planned]; rfl
  tasks ev hev := (List.mem_append.1 hev).elim (h.tasks ev) (h'.tasks ev)
  described ev hev := (List.mem_append.1 hev).elim (h.described ev) (h'.described ev)

theorem Dispatched.cons {x : TailPlan.Unseen} {us : List TailPlan.Unseen} {evs evs' : List Event}
    {r : Except SourceError Unit} (hx : s.Handled [x.entry] evs) (h : s.Dispatched us evs' r) :
    s.Dispatched (x :: us) (evs ++ evs') r := by
  cases h with
  | through hus => exact .through (hx.append hus)
  | @stopped _ _ _ before after y hus hbefore hterminal hlost =>
    have hxus : x :: us = (x :: before) ++ y :: after := congrArg _ hus
    rw [← List.append_assoc]
    exact .stopped hxus (hx.append hbefore) hterminal hlost

theorem Dispatched.tasks {us : List TailPlan.Unseen} {evs : List Event}
    {r : Except SourceError Unit} (h : s.Dispatched us evs r) :
    ∀ ev ∈ evs, ev.act.task ∈ [.describe, .report] := by
  cases h with
  | through hus => exact hus.tasks
  | stopped hus hbefore hterminal hlost =>
    refine List.forall_mem_append.2 ⟨hbefore.tasks, List.forall_mem_singleton.2 ?_⟩
    rw [Event.task_of_undescribed hlost]
    exact .head _

end LogSensor

section
variable {ρ : Rules} (hρ : ρ.Orderly) {w v : World}
include hρ

theorem runs_dispatchEntry {s : LogSensor} {x : TailPlan.Unseen} {r : Except SourceError Unit}
    (h : Runs ρ.Step (acts (s.dispatchEntry x)) w (some r) v) :
    ∃ evs, v.history = w.history ++ evs ∧
      (r = .ok () ∧ s.Handled [x.entry] (evs ++ [⟨.handled x, ()⟩]) ∨
        ∃ e ev, r = .error e ∧ e.isTerminal = true ∧ ev.undescribed = true ∧ evs = [ev]) := by
  obtain ⟨evs, hevs, ⟨⟨_, rfl⟩, hdescribed⟩ | hlost⟩ := runs_entryDescribed hρ h
  · obtain ⟨-, as, halerts, evs', hidle, rfl, hm⟩ | ⟨e, hr, -⟩ :=
      (ensures_dispatchEntry hρ s x w _ v h).2 _ rfl
    · obtain rfl : evs = evs' := List.append_cancel_left (hevs.symm.trans hm.history)
      have hquiet := fun ev hev => Event.quiet_spec (Event.idle_spec (hidle ev hev)).1
      have htasks := (onlyFor_dispatchEntry s x).events hρ h hevs
      have hnone : handled evs = [] := List.filterMap_eq_nil_iff.2 fun ev hev => (hquiet ev hev).2.2.1
      have hplans : planned evs = [] := List.flatMap_eq_nil_iff.2 fun ev hev => (hquiet ev hev).2.2.2
      refine ⟨evs, hevs, .inl ⟨rfl, ?_, ?_, ?_, ?_, ?_⟩⟩
      · rw [handled_append, hnone]
        rfl
      · rw [delivered_append]
        exact (List.append_nil _).symm ▸ halerts
      · rw [planned_append, hplans]
        rfl
      · exact List.forall_mem_append.2 ⟨htasks, by simp [Act.task]⟩
      · exact List.forall_mem_append.2 ⟨hdescribed, by simp [Event.undescribed]⟩
    · cases hr
  · exact ⟨evs, hevs, .inr hlost⟩

/-- How the handling of entries comes to its end. -/
theorem runs_dispatchActs {s : LogSensor} {us : List TailPlan.Unseen} {r : Except SourceError Unit}
    (h : Runs ρ.Step (s.dispatchActs us) w (some r) v) :
    ∃ evs, v.history = w.history ++ evs ∧ s.Dispatched us evs r := by
  induction us generalizing w with
  | nil =>
    obtain ⟨rfl, rfl⟩ := h.of_done
    exact ⟨[], by simp, .through .nil⟩
  | cons x us ih =>
    obtain ⟨r₁, u, hentry, h⟩ := h.of_bind
    obtain ⟨evs₁, hevs₁, ⟨rfl, hhandled⟩ | ⟨e, ev, rfl, hterminal, hlost, rfl⟩⟩ :=
      runs_dispatchEntry hρ hentry
    · obtain ⟨_, u₁, htold, h⟩ := h.of_call
      obtain ⟨evs₂, hevs₂, hdispatched⟩ := ih h
      rw [htold.history hρ, hevs₁, List.append_assoc, List.append_assoc] at hevs₂
      exact ⟨_, by rw [hevs₂, List.append_assoc], .cons hhandled hdispatched⟩
    · obtain ⟨rfl, rfl⟩ := h.of_done
      have hfirst : x :: us = [] ++ x :: us := rfl
      exact ⟨_, hevs₁, .stopped hfirst .nil hterminal hlost⟩

end

/-! ## The whole cycle -/

/-- How a cycle has got to the check of the usage, by its events and its end. -/
inductive LogSensor.Processed (s : LogSensor) (w v : World) :
    List Event → Except SourceError Unit → LogSensor → Prop
  | unread {evs : List Event} (loaded : s.Loaded w v evs (.ok none)) : Processed s w v evs (.ok ()) s
  | unlisted {evs : List Event} {e : SourceError} (loaded : s.Loaded w v evs (.error e)) :
      Processed s w v evs (.error e) s
  | stopped {loading handling : List Event} {lines : List String} {u : World} {e : SourceError}
      (loaded : s.Loaded w u loading (.ok (some lines))) (kept : v.files = u.files)
      (dispatched : s.Dispatched (TailPlan.make (LogEntry.parseLines lines) s.cursor).unseen handling
        (.error e)) :
      Processed s w v (loading ++ ⟨.plan (LogEntry.parseLines lines)
        (TailPlan.make (LogEntry.parseLines lines) s.cursor), ()⟩ :: handling) (.error e) s
  | through {loading handling storing : List Event} {lines : List String} {u : World}
      {unsaved : Bool} (loaded : s.Loaded w u loading (.ok (some lines)))
      (dispatched : s.Dispatched (TailPlan.make (LogEntry.parseLines lines) s.cursor).unseen handling
        (.ok ()))
      (tasks : ∀ ev ∈ storing, ev.act.task ∈ [.store]) :
      Processed s w v (loading ++ ⟨.plan (LogEntry.parseLines lines)
        (TailPlan.make (LogEntry.parseLines lines) s.cursor), ()⟩ :: handling ++ storing) (.ok ())
        { s with
          cursor := (TailPlan.make (LogEntry.parseLines lines) s.cursor).nextCursor.getD s.cursor
          cursorUnsaved := unsaved }

section
variable {ρ : Rules} (hρ : ρ.Orderly) {w v : World} {s s' : LogSensor}
include hρ

theorem runs_handleActs (hst : s.store.Apart) {lines : List String} {r : Except SourceError Unit}
    {w₀ : World} {loading : List Event} (hloading : w.history = w₀.history ++ loading)
    (hloaded : s.Loaded w₀ w loading (.ok (some lines)))
    (h : Runs ρ.Step (s.handleActs lines) w (some (r, s')) v) :
    ∃ evs, v.history = w₀.history ++ evs ∧ s.Processed w₀ v evs r s' := by
  unfold LogSensor.handleActs at h
  have hrun := h
  obtain ⟨_, u, htold, h⟩ := h.of_call
  rw [bind_done] at h
  obtain ⟨r₁, u₁, hdispatch, h⟩ := h.of_bind
  obtain ⟨handling, hhandling, hdispatched⟩ := runs_dispatchActs hρ hdispatch
  rw [htold.history hρ, List.append_assoc] at hhandling
  cases r₁ with
  | error e =>
    obtain ⟨hr, rfl⟩ := h.of_done
    cases hr
    refine ⟨_, by rw [hhandling, hloading, List.append_assoc]; rfl, .stopped hloaded ?_ hdispatched⟩
    exact runs_unstored hρ hrun hhandling
      (List.forall_mem_cons.2 ⟨nofun, task_ne hdispatched.tasks (by decide)⟩)
  | ok x =>
    obtain ⟨s₁, u₂, hcommit, h⟩ := h.of_bind
    obtain ⟨hr, rfl⟩ := h.of_done
    cases hr
    obtain ⟨⟨unsaved, rfl⟩, -⟩ := (ensures_commit hρ s hst _ u₁ _ v hcommit).2 _ rfl
    obtain ⟨storing, hstoring⟩ := exists_events hρ hcommit
    have htasks := (onlyFor_commit s _).events hρ hcommit hstoring
    rw [hhandling, hloading] at hstoring
    exact ⟨_, by simpa [List.append_assoc] using hstoring, .through hloaded hdispatched htasks⟩

theorem runs_processActs (hst : s.store.Apart) {r : Except SourceError Unit}
    (h : Runs ρ.Step s.processActs w (some (r, s')) v) :
    ∃ s₁ u evs, Runs ρ.Step (acts s.retryCursor) w (some s₁) u ∧ v.history = u.history ++ evs ∧
      s₁.Processed u v evs r s' := by
  obtain ⟨s₁, u, hretry, h⟩ := h.of_bind
  obtain ⟨⟨unsaved, rfl⟩, -⟩ := (ensures_retryCursor hρ s hst w _ u hretry).2 _ rfl
  obtain ⟨r₁, u₁, hload, h⟩ := h.of_bind
  obtain ⟨loading, hloading, hloaded⟩ := runs_loadBuffer (s := { s with cursorUnsaved := unsaved })
    hρ hst hload
  rcases r₁ with e | _ | lines
  · obtain ⟨hr, rfl⟩ := h.of_done
    cases hr
    exact ⟨_, u, _, hretry, hloading, .unlisted hloaded⟩
  · obtain ⟨hr, rfl⟩ := h.of_done
    cases hr
    exact ⟨_, u, _, hretry, hloading, .unread hloaded⟩
  · obtain ⟨evs, hevs, hprocessed⟩ :=
      runs_handleActs (s := { s with cursorUnsaved := unsaved }) hρ hst hloading hloaded h
    exact ⟨_, u, _, hretry, hevs, hprocessed⟩

theorem runs_checkUsage_failed {now : Nat} {r : Except SourceError Unit}
    (h : Runs ρ.Step (acts (s.checkUsage now)) w (some (r, s')) v) {evs : List Event}
    (hevs : v.history = w.history ++ evs) {e : SourceError}
    (hfailed : ⟨.ask (.ipmi .logInfo), .error e⟩ ∈ evs ∨ ⟨.ask (.ipmi .logClear), .error e⟩ ∈ evs) :
    r = (if e.isTerminal then .error e else .ok ()) ∧ (∃ usage, s' = { s with usage }) ∧
      v.files = w.files := by
  unfold LogSensor.checkUsage at h
  rw [bind_eq, acts_bind] at h
  obtain ⟨⟨result, usage⟩, u, hcheck, h⟩ := h.of_bind
  obtain ⟨evs₁, hevs₁, hchecked⟩ := runs_check hρ hcheck
  have hfiles : u.files = w.files := by
    refine runs_unstored hρ hcheck hevs₁ fun ev hev htask => ?_
    rw [hchecked.tasks ev hev] at htask
    cases htask
  rcases result with e' | _ | _
  · obtain ⟨hr, rfl⟩ := h.of_done
    cases hr
    obtain rfl : evs = evs₁ := List.append_cancel_left (hevs.symm.trans hevs₁)
    obtain hsame | ⟨hsame, -⟩ := hchecked.of_failed hfailed
    · cases hsame
      exact ⟨rfl, ⟨usage, rfl⟩, hfiles⟩
    · cases hsame
  · obtain ⟨hr, rfl⟩ := h.of_done
    cases hr
    obtain rfl : evs = evs₁ := List.append_cancel_left (hevs.symm.trans hevs₁)
    obtain hsame | ⟨-, hterminal⟩ := hchecked.of_failed hfailed
    · cases hsame
    · rw [hterminal]
      exact ⟨rfl, ⟨usage, rfl⟩, hfiles⟩
  · -- Once the log has been cleared, only the cursor is written.
    obtain ⟨s₁, u₁, hsave, h⟩ := Runs.of_bind (acts_bind _ _ ▸ h)
    obtain ⟨-, rfl⟩ := h.of_done
    obtain ⟨evs₂, hevs₂⟩ := exists_events hρ hsave
    have hstored := (onlyFor_saveCursor _).events hρ hsave hevs₂
    obtain rfl := events_append hevs hevs₁ hevs₂
    have hearlier : ∀ {q : IpmiRequest}, (Request.ipmi q).task ≠ .store →
        ⟨.ask (.ipmi q), .error e⟩ ∈ evs₁ ++ evs₂ → ⟨.ask (.ipmi q), .error e⟩ ∈ evs₁ := by
      intro q htask hmem
      refine (List.mem_append.1 hmem).resolve_right fun hlater => ?_
      exact htask (List.mem_singleton.1 (hstored _ hlater))
    obtain hsame | ⟨hsame, -⟩ :=
      hchecked.of_failed (hfailed.imp (hearlier nofun) (hearlier nofun))
    · cases hsame
    · cases hsame

omit hρ in
/-- A completed cycle has got to the check of the usage and through it, or failed before. -/
theorem runs_pollActs {now : Nat} {o : Outcome}
    (h : Runs ρ.Step (s.pollActs now) w (some (o, s')) v) :
    (∃ e, Runs ρ.Step s.processActs w (some (.error e, s')) v ∧ o = .ofResult (.error e)) ∨
      ∃ s₁ u r, Runs ρ.Step s.processActs w (some (.ok (), s₁)) u ∧
        Runs ρ.Step (acts (s₁.checkUsage now)) u (some (r, s')) v ∧ o = .ofResult r := by
  obtain ⟨⟨r, s₁⟩, u, hprocess, h⟩ := h.of_bind
  cases r with
  | error e =>
    obtain ⟨hr, rfl⟩ := h.of_done
    cases hr
    exact .inl ⟨e, hprocess, rfl⟩
  | ok x =>
    obtain ⟨⟨r, s₂⟩, u₁, hcheck, h⟩ := h.of_bind
    obtain ⟨hr, rfl⟩ := h.of_done
    cases hr
    exact .inr ⟨s₁, u, r, hprocess, hcheck, rfl⟩

end

end HealthAgent
