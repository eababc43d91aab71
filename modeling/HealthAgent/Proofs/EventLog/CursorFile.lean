import HealthAgent.Proofs.EventLog.Replies
/-!
# The cursor file and the cursor in memory

The cursor changes in two places, behind handled entries and after a clearing of the log, and each
change is written at once. A writing can fail, and `cursorUnsaved` tells of it: unless it is set,
the file tells the cursor in memory. If it is set, the file still tells what it was told last, and
the next cycle begins with another writing.

`Operates` are the states of a process: it starts over any files, with a cursor file that may be
missing, blank or corrupt, and runs one cycle after the other. Between two cycles the log may become
anything; a cycle lists it at most once. Every request may fail but the reading of the cursor file.

Results:
* `Rules.Still.cursor`: the cursor file tells the number that it has got last.
* `ensures_agrees`: a cycle that begins in agreement ends in agreement.
* `pollActs_of_unsaved`: with an unsaved cursor, a cycle is a writing and the cycle without it.
* `cursor_file_told`: what the cursor file tells in every state of a process.
-/
namespace HealthAgent
open Program World

/-! ## What the cursor file has been told last -/

/-- What a cursor file with this content tells a sensor that starts. -/
def LogStore.told (bytes : ByteArray) : UInt64 :=
  match String.fromUTF8? bytes with
  | some text => (parseCursor text).toOption.getD 0
  | none => 0

/-- What the cursor file is told, if the event is a writing of it that succeeds. -/
def Event.saved? (st : LogStore) : Event → Option UInt64
  | ⟨.ask (.file (.replace path bytes)), .written⟩ =>
    if path = st.cursorPath then some (LogStore.told bytes) else none
  | _ => none

/-- What the cursor file has been told last, if at all. -/
def lastSaved? (st : LogStore) (evs : List Event) : Option UInt64 :=
  (evs.filterMap (Event.saved? st)).getLast?

theorem lastSaved?_append (st : LogStore) (evs evs' : List Event) :
    lastSaved? st (evs ++ evs') = (lastSaved? st evs').or (lastSaved? st evs) := by
  unfold lastSaved?
  rw [List.filterMap_append, List.getLast?_append]

theorem lastSaved?_singleton (st : LogStore) (ev : Event) : lastSaved? st [ev] = ev.saved? st := by
  cases hsaved : ev.saved? st <;> simp [lastSaved?, hsaved]

namespace World

theorem cursor_eq_told (w : World) (st : LogStore) :
    w.cursor st = ((w.files st.cursorPath).map LogStore.told).getD 0 := by
  unfold cursor LogStore.told
  cases w.files st.cursorPath <;> rfl

/-- An act changes what the cursor file tells only if it is a writing of it. -/
theorem cursor_after (w : World) (a : Act) (r : a.Answer) (st : LogStore) :
    (w.after a r).cursor st = ((Event.mk a r).saved? st).getD (w.cursor st) := by
  rw [cursor_eq_told, cursor_eq_told]
  unfold Event.saved?
  split
  · next path bytes heq =>
    cases heq
    by_cases hpath : path = st.cursorPath
    · simp [after, filesAfter, hpath]
    · simp [after, filesAfter, hpath, Ne.symm hpath]
  · next hother =>
    rw [Option.getD_none, files_after]
    unfold Event.writes
    split
    · next path bytes heq => exact absurd heq (hother path bytes)
    · rfl

end World

theorem Rules.Still.cursor {ρ : Rules} (hρ : ρ.Still) (st : LogStore) {α : Type}
    {p : ActProgram α} {w v : World} {o : Option α} (h : Runs ρ.Step p w o v) {evs : List Event}
    (hevs : v.history = w.history ++ evs) :
    v.cursor st = (lastSaved? st evs).getD (w.cursor st) := by
  induction h generalizing evs with
  | done a w =>
    obtain rfl : evs = [] := by simpa using hevs
    rfl
  | cut r k w =>
    obtain rfl : evs = [] := by simpa using hevs
    rfl
  | @call r k w a w' o v step rest ih =>
    obtain ⟨evs', hevs'⟩ := runs_history hρ.orderly rest
    obtain ⟨u, hdrift, -, -, rfl⟩ := step
    rw [hρ w u hdrift] at ih hevs'
    obtain rfl : evs = [⟨r, a⟩] ++ evs' := by
      rw [hevs, World.after, List.append_assoc] at hevs'
      exact (List.append_cancel_left hevs').symm
    rw [ih hevs'.symm, World.cursor_after, lastSaved?_append, lastSaved?_singleton]
    cases lastSaved? st evs' <;> rfl

/-! ## Agreement -/

/-- Unless the sensor knows better, the cursor file tells its cursor. -/
structure LogSensor.Agrees (st : LogStore) (s : LogSensor) (w : World) : Prop where
  store : s.store = st
  file : s.cursorUnsaved = false → w.cursor st = s.cursor

theorem LogSensor.Agrees.rests {st : LogStore} {s : LogSensor} {w v : World} (h : s.Agrees st w)
    (hv : v.cursor st = w.cursor st) : s.Agrees st v :=
  ⟨h.store, fun hsaved => hv.trans (h.file hsaved)⟩

namespace World

variable {ρ : Rules} {st : LogStore} {w v : World}

theorem Stores.cursor {b : List String} (h : w.Stores st b v) : v.cursor st = w.cursor st := by
  obtain ⟨bytes, hm⟩ := h
  exact hm.cursor

theorem Fetches.cursor {lines : List String} (h : w.Fetches st lines v) :
    v.cursor st = w.cursor st := by
  obtain ⟨-, t, u, hp, ⟨-, text, hm⟩, hv⟩ := h
  have hu : u.cursor st = w.cursor st := hm.cursor.trans hp.cursor
  rcases hv with hp' | hs
  · exact hp'.cursor.trans hu
  · exact hs.cursor.trans hu

theorem Loads.cursor {r : Except SourceError (Option (List String))} (h : w.Loads ρ st v r) :
    v.cursor st = w.cursor st := by
  cases h with
  | unreadable hp => exact hp.cursor
  | recovered lines left nonempty hp => exact hp.cursor
  | unlisted e hp => exact hp.cursor
  | fetched lines hf => exact hf.cursor

theorem Checks.cursor {cleared : Bool} (h : w.Checks ρ st v cleared) :
    v.cursor st = w.cursor st := by
  cases h with
  | passes hp => exact hp.cursor
  | refuses hp hr =>
    obtain ⟨e, hm⟩ := hr
    exact hm.cursor.trans hp.cursor
  | clears hp hadmits hc => exact hc.cursor.trans hp.cursor

end World

section
variable {ρ : Rules} (hρ : ρ.Orderly) {st : LogStore} (hst : st.Apart)
include hρ

theorem ensures_dispatch_cursor (s : LogSensor) (us : List TailPlan.Unseen) (w : World) :
    Ensures ρ.Step (fun _ => True) (s.dispatchActs us) w fun _ v =>
      v.cursor s.store = w.cursor s.store := by
  induction us generalizing w with
  | nil => exact .done trivial rfl
  | cons u us ih =>
    refine Ensures.bind ((ensures_dispatchEntry hρ s u w).mono (fun _ _ => trivial)
      fun _ _ _ h => h) ?_
    intro r v h
    rcases h with ⟨rfl, as, -, hp⟩ | ⟨e, rfl, -, hp⟩
    · apply Ensures.call trivial
      intro a v₁ hstep
      have hm := hstep.told hρ s.store nofun
      refine (ih v₁).mono (fun _ _ => trivial) fun r v₂ _ h => ?_
      rw [h, hm.cursor, hp.cursor]
    · exact .done trivial hp.cursor

include hst

/-- A writing of the cursor makes for agreement, whether it fails or not. -/
theorem ensures_saveCursor_agrees (s : LogSensor) (hs : s.store = st) (w : World) :
    Ensures ρ.Step (fun _ => True) (acts s.saveCursor) w fun s' v => s'.Agrees st v := by
  subst hs
  refine (ensures_saveCursor hρ s hst w).mono (fun _ _ => trivial) ?_
  rintro s' v - (⟨rfl, bytes, hm⟩ | ⟨rfl, -⟩)
  · exact ⟨rfl, fun _ => hm.cursor⟩
  · exact ⟨rfl, nofun⟩

theorem ensures_commit_agrees {s : LogSensor} {w : World} (h : s.Agrees st w) (plan : TailPlan) :
    Ensures ρ.Step (fun _ => True) (acts (s.commit plan)) w fun s' v => s'.Agrees st v := by
  have hclear : ∀ (s : LogSensor) (w : World), s.Agrees st w → Ensures ρ.Step (fun _ => True)
      (acts (s.store.clearPending.bind fun _ => .done s)) w fun s' v => s'.Agrees st v := by
    intro s w h
    rw [h.store]
    refine Ensures.acts_bind ((ensures_replacePending hρ st hst "" w).mono (fun _ _ => trivial)
      fun _ _ _ h => h) ?_
    intro r v hv
    refine .done trivial (h.rests ?_)
    rcases hv with hp | hs
    · exact hp.cursor
    · exact hs.cursor
  unfold LogSensor.commit
  split
  · next index _ =>
    exact Ensures.acts_bind (ensures_saveCursor_agrees hρ hst { s with cursor := index } h.store w)
      hclear
  · exact hclear s w h

theorem ensures_handle_agrees {s : LogSensor} {w : World} (h : s.Agrees st w)
    (lines : List String) :
    Ensures ρ.Step (fun _ => True) (s.handleActs lines) w fun r v => r.2.Agrees st v := by
  apply Ensures.call trivial
  intro a w₁ hstep
  have h₁ := h.rests (hstep.told hρ st nofun).cursor
  rw [bind_done]
  refine Ensures.bind (ensures_dispatch_cursor hρ s _ w₁) ?_
  intro r v hv
  rw [h.store] at hv
  cases r with
  | error e => exact .done trivial (h₁.rests hv)
  | ok x =>
    refine Ensures.bind (ensures_commit_agrees hρ hst (h₁.rests hv) _) ?_
    intro s' v' hv'
    exact .done trivial hv'

theorem ensures_process_agrees {s : LogSensor} {w : World} (h : s.Agrees st w) :
    Ensures ρ.Step (fun _ => True) s.processActs w fun r v => r.2.Agrees st v := by
  have hretry : Ensures ρ.Step (fun _ => True) (acts s.retryCursor) w fun s' v =>
      s'.Agrees st v := by
    unfold LogSensor.retryCursor
    split
    · exact ensures_saveCursor_agrees hρ hst s h.store w
    · exact .done trivial h
  refine Ensures.bind hretry ?_
  intro s' v hv
  have hload := ensures_loadBuffer hρ s' (hv.store ▸ hst) v
  refine Ensures.bind (hload.mono (fun _ _ => trivial) fun _ _ _ h => h) ?_
  intro r v' hloads
  rw [hv.store] at hloads
  have hv' := hv.rests hloads.cursor
  rcases r with e | _ | lines
  · exact .done trivial hv'
  · exact .done trivial hv'
  · exact ensures_handle_agrees hρ hst hv' lines

theorem ensures_checkUsage_agrees {s : LogSensor} {w : World} (h : s.Agrees st w) (now : Nat) :
    Ensures ρ.Step (fun _ => True) (acts (s.checkUsage now)) w fun r v => r.2.Agrees st v := by
  apply Ensures.acts_bind ((ensures_check hρ st s.usage now w).mono (fun _ _ => trivial)
    fun _ _ _ h => h)
  rintro ⟨r, usage⟩ v ⟨cleared, hchecks, -⟩
  have hv := h.rests hchecks.cursor
  rcases r with e | _ | _
  · exact .done trivial ⟨hv.store, hv.file⟩
  · exact .done trivial ⟨hv.store, hv.file⟩
  · have hreset := ensures_saveCursor_agrees hρ hst { s with usage, cursor := 0 } h.store v
    refine Ensures.acts_bind hreset ?_
    intro s' v' hv'
    exact .done trivial hv'

/-- A cycle that begins in agreement ends in agreement. -/
theorem ensures_agrees {s : LogSensor} {w : World} (h : s.Agrees st w) (now : Nat) :
    Ensures ρ.Step (fun _ => True) (s.pollActs now) w fun r v => r.2.Agrees st v := by
  refine Ensures.bind (ensures_process_agrees hρ hst h) ?_
  rintro ⟨r, s'⟩ v hv
  cases r with
  | error e => exact .done trivial hv
  | ok x =>
    refine Ensures.bind (ensures_checkUsage_agrees hρ hst hv now) ?_
    rintro ⟨r, s''⟩ v' hv'
    exact .done trivial hv'

end

/-! ## The next writing -/

namespace LogSensor

def cursorWriting (s : LogSensor) : Request :=
  .file (.replace s.store.cursorPath (LogStore.cursorText s.cursor).toUTF8)

/-- With an unsaved cursor, a cycle is a writing of the cursor, and then the cycle without it. -/
theorem pollActs_of_unsaved {s : LogSensor} (h : s.cursorUnsaved = true) (now : Nat) :
    ∃ k, s.pollActs now = .call (.ask s.cursorWriting) k ∧
      k .written = { s with cursorUnsaved := false }.pollActs now := by
  have hretry : s.retryCursor = s.saveCursor := if_pos h
  have hsaved : ({ s with cursorUnsaved := false } : LogSensor).retryCursor =
      .done { s with cursorUnsaved := false } := rfl
  unfold pollActs processActs
  rw [hretry, hsaved]
  exact ⟨_, rfl, rfl⟩

end LogSensor

/-! ## A process -/

/-- Whether the event is no reading of the cursor file that fails. -/
def Event.finds (folder : String) : Event → Bool
  | ⟨.ask (.file (.load path)), .failed⟩ => path ≠ (LogStore.inFolder folder).cursorPath
  | _ => true

/-- Everything may fail but the reading of the cursor file. -/
def Rules.finding (folder : String) : Rules := .only (·.finds folder)

theorem Rules.finding_still (folder : String) : (Rules.finding folder).Still :=
  Rules.only_still _

theorem Rules.finding_not_misses (folder : String) :
    ¬(Rules.finding folder).Misses (LogStore.inFolder folder).cursorPath := by
  rintro ⟨w, hadmits⟩
  simp [Rules.finding, Rules.only, Event.finds] at hadmits

/-- The states of a process that has started as `s₀` in `w₀`. -/
inductive Operates (folder : String) (s₀ : LogSensor) (w₀ : World) : LogSensor → World → Prop
  | start {w : World} (config : LogConfig) (context : AlertContext) (zone : Calendar.Zone)
      (runs : Runs (Rules.finding folder).Step
        (acts (LogSensor.start folder config context zone)) w (some (.ok s₀)) w₀) :
      Operates folder s₀ w₀ s₀ w₀
  /-- The log may become anything between two cycles. -/
  | relog {s : LogSensor} {w : World} (before : Operates folder s₀ w₀ s w) (log : String) :
      Operates folder s₀ w₀ s { w with log }
  | poll {s s' : LogSensor} {w v : World} (before : Operates folder s₀ w₀ s w) (now : Nat)
      {o : Outcome}
      (runs : Runs (Rules.finding folder).Step (s.pollActs now) w (some (o, s')) v) :
      Operates folder s₀ w₀ s' v

namespace Operates

variable {folder : String} {s₀ s : LogSensor} {w₀ w : World}

/-- A sensor starts in agreement, whatever the cursor file holds. -/
theorem started (h : Operates folder s₀ w₀ s w) :
    s₀.Agrees (.inFolder folder) w₀ ∧ w₀.cursor (.inFolder folder) = s₀.cursor := by
  induction h with
  | @start w config context zone runs =>
    obtain ⟨-, hstarted⟩ := (ensures_start (Rules.finding_still folder).orderly folder config
      context zone w _ _ runs).2 _ rfl
    obtain ⟨hstore, hcursor⟩ := hstarted s₀ rfl
    rw [hstore] at hcursor
    rcases hcursor with heq | ⟨-, hmisses⟩
    · exact ⟨⟨hstore, fun _ => heq.symm⟩, heq.symm⟩
    · exact absurd hmisses (Rules.finding_not_misses folder)
  | relog before log ih => exact ih
  | poll before now runs ih => exact ih

theorem agrees (h : Operates folder s₀ w₀ s w) : s.Agrees (.inFolder folder) w := by
  have hst := LogStore.inFolder_apart folder
  induction h with
  | start config context zone runs => exact (Operates.start config context zone runs).started.1
  | relog before log ih => exact ih.rests rfl
  | poll before now runs ih =>
    exact (ensures_agrees (Rules.finding_still folder).orderly hst ih now _ _ runs).2 _ rfl

/-- The cursor file tells what it has been told last, or what it told the sensor that started. -/
theorem saved (h : Operates folder s₀ w₀ s w) : ∃ evs, w.history = w₀.history ++ evs ∧
    w.cursor (.inFolder folder) = (lastSaved? (.inFolder folder) evs).getD s₀.cursor := by
  induction h with
  | start config context zone runs =>
    exact ⟨[], (List.append_nil _).symm, (Operates.start config context zone runs).started.2⟩
  | relog before log ih => exact ih
  | poll before now runs ih =>
    obtain ⟨evs, hevs, hcursor⟩ := ih
    have hstill := Rules.finding_still folder
    obtain ⟨evs', hevs'⟩ := runs_history hstill.orderly runs
    refine ⟨evs ++ evs', by rw [← hevs', hevs, List.append_assoc], ?_⟩
    rw [hstill.cursor (.inFolder folder) runs hevs'.symm, hcursor, lastSaved?_append]
    cases lastSaved? (.inFolder folder) evs' <;> rfl

end Operates

/-- **The cursor file and the cursor in memory.** In every state of a process, the cursor file tells
the cursor in memory unless the sensor knows that the cursor is unsaved. In that case the file tells
what it was told last, or what it told at the start; and the next cycle is a writing of the cursor,
behind which the file tells the cursor if the writing succeeds, and then the cycle of a sensor whose
cursor is saved. -/
theorem cursor_file_told {folder : String} {s₀ s : LogSensor} {w₀ w : World}
    (h : Operates folder s₀ w₀ s w) :
    s.store = .inFolder folder ∧
      (s.cursorUnsaved = false → w.cursor s.store = s.cursor) ∧
      (s.cursorUnsaved = true →
        (∃ evs, w.history = w₀.history ++ evs ∧
          w.cursor s.store = (lastSaved? s.store evs).getD s₀.cursor) ∧
        ∀ now, ∃ k, s.pollActs now = .call (.ask s.cursorWriting) k ∧
          (∀ u, (Rules.finding folder).Step w (.ask s.cursorWriting) .written u →
            u.cursor s.store = s.cursor) ∧
          k .written = { s with cursorUnsaved := false }.pollActs now) := by
  obtain ⟨hstore, hfile⟩ := h.agrees
  have hsaved := h.saved
  rw [← hstore] at hfile hsaved
  refine ⟨hstore, hfile, fun hunsaved => ⟨hsaved, fun now => ?_⟩⟩
  obtain ⟨k, hcycle, hwritten⟩ := LogSensor.pollActs_of_unsaved hunsaved now
  refine ⟨k, hcycle, fun u hstep => ?_, hwritten⟩
  have hst : s.store.Apart := hstore ▸ LogStore.inFolder_apart folder
  obtain ⟨bytes, hm⟩ := hstep.saves (Rules.finding_still folder).orderly hst
  exact hm.cursor

namespace Trial

/-- A controller that cannot clear its log, beside a disk that does not take the cursor 2. -/
def refusing : Replies :=
  { keeping with refuses := fun _ bytes => bytes = (LogStore.cursorText 2).toUTF8 }

/-- A sensor that has started over a log of one entry. -/
def begun : Machine := (fresh (line "1" "")).launch refusing 100 "state" config context .utc

/-- The sensor after its first cycle, when the log has got a second entry. -/
def settled : Machine := (begun.cycle refusing 100 0).withLog (line "1" "" ++ line "2" "")

/-- The sensor after its second cycle, whose cursor has been refused. -/
def refused : Machine := settled.cycle refusing 100 0

theorem refused_operates : ∃ s₀ s, Operates "state" s₀ begun.world s refused.world ∧
    refused.sensor = some s := by
  have hstart : begun.sensor.isSome = true := by decide +kernel
  have hfirst : begun.outcome refusing 100 0 = some .proceed := by decide +kernel
  have hsecond : settled.outcome refusing 100 0 = some .proceed := by decide +kernel
  have hfinds : ((fresh (line "1" "")).eventsTo begun).all (·.finds "state") = true ∧
      (begun.eventsTo (begun.cycle refusing 100 0)).all (·.finds "state") = true ∧
      (settled.eventsTo refused).all (·.finds "state") = true := by decide +kernel
  obtain ⟨s₀, hs₀, hlaunch⟩ := Machine.exists_started_only hstart hfinds.1
  obtain ⟨s₁, s₂, hs₁, hs₂, hrun, -⟩ := Machine.exists_completed_only hfirst hfinds.2.1
  obtain ⟨s₃, s₄, hs₃, hs₄, hrun', -⟩ := Machine.exists_completed_only hsecond hfinds.2.2
  obtain rfl : s₀ = s₁ := Option.some.inj (hs₀.symm.trans hs₁)
  obtain rfl : s₂ = s₃ := Option.some.inj (hs₂.symm.trans hs₃)
  exact ⟨s₀, s₄, .poll (.relog (.poll (.start config context .utc hlaunch) 0 hrun) _) 0 hrun', hs₄⟩

end Trial

/-- The cursor 2 is unsaved and the file tells the cursor 1 that it was told last. The next cycle
writes the cursor, which can succeed, and then goes on with 2 in the file. -/
theorem cursor_file_told_refused : ∃ s₀ s,
    Operates "state" s₀ Trial.begun.world s Trial.refused.world ∧
    s.cursor = 2 ∧ s.cursorUnsaved = true ∧ Trial.refused.world.cursor s.store = 1 ∧
    (∃ evs, Trial.refused.world.history = Trial.begun.world.history ++ evs ∧
      (lastSaved? s.store evs).getD s₀.cursor = 1) ∧
    ∃ k u, s.pollActs 0 = .call (.ask s.cursorWriting) k ∧
      (Rules.finding "state").Step Trial.refused.world (.ask s.cursorWriting) .written u ∧
      u.cursor s.store = 2 ∧ k .written = { s with cursorUnsaved := false }.pollActs 0 := by
  obtain ⟨s₀, s, hoperates, hs⟩ := Trial.refused_operates
  have hmemory : (Trial.refused.sensor.map fun s => (s.cursor, s.cursorUnsaved)) =
      some (2, true) := by decide +kernel
  rw [hs] at hmemory
  obtain ⟨hcursor, hunsaved⟩ := Prod.mk.inj (Option.some.inj hmemory)
  obtain ⟨hstore, -, hlag⟩ := cursor_file_told hoperates
  obtain ⟨⟨evs, hevs, hlast⟩, hnext⟩ := hlag hunsaved
  have hfile : Trial.refused.world.cursor s.store = 1 := by
    rw [hstore]
    decide +kernel
  obtain ⟨k, hcycle, htold, hwritten⟩ := hnext 0
  have hstep : (Rules.finding "state").Step Trial.refused.world (.ask s.cursorWriting) .written
      (Trial.refused.world.after (.ask s.cursorWriting) .written) := ⟨_, rfl, trivial, rfl, rfl⟩
  exact ⟨s₀, s, hoperates, hcursor, hunsaved, hfile, ⟨evs, hevs, hlast.symm.trans hfile⟩, k, _,
    hcycle, hstep, (htold _ hstep).trans hcursor, hwritten⟩

end HealthAgent
