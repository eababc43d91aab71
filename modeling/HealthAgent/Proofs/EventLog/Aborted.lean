import HealthAgent.Proofs.EventLog.Stages
/-!
# Cycles that are given up

A request to the management controller can fail where the log is listed, where the sensor of an entry
is described and where the usage is checked. Each time the cycle ends early, or the check does, and
what the sensor and its files hold then is what they held before, or what the commit has left.

Results:
* `Processed.of_unlisted`, `Processed.of_undescribed`: what a cycle leaves if the log is not listed, or
  a sensor not described.
* `LogStore.repeats`: a cycle handles the plan for the lines in its buffer from the beginning.
* `aborted_cycle`: what a cycle leaves in which one of these requests has failed.
-/
namespace HealthAgent
open Program World

namespace LogSensor

variable {s s' : LogSensor} {w v : World} {evs : List Event} {lines : List String}

/-- The lines of a cycle: those that were left in the buffer or, if that was empty, those of the log as
it has been listed. -/
def Takes (s : LogSensor) (w : World) (evs : List Event) (lines : List String) : Prop :=
  w.buffer s.store ≠ [] ∧ lines = w.buffer s.store ∨
    w.buffer s.store = [] ∧ ∃ text, ⟨.ask (.ipmi .logList), .ok text⟩ ∈ evs ∧ lines = text.writtenLines

/-- A cycle has ended at the entry `x` of its plan, having handled those before it. It has not touched
the cursor file, and unless they could not be put there, its lines are in the buffer. -/
structure Halted (s : LogSensor) (w v : World) (evs : List Event) (lines : List String)
    (before : List TailPlan.Unseen) (x : TailPlan.Unseen) (after : List TailPlan.Unseen) : Prop where
  takes : s.Takes w evs lines
  unseen : (TailPlan.make (LogEntry.parseLines lines) s.cursor).unseen = before ++ x :: after
  handled : handled evs = before.map (·.entry)
  alerts : s.AlertsFor (before.map (·.entry)) (delivered evs)
  cursor : v.files s.store.cursorPath = w.files s.store.cursorPath
  buffer : (w.buffer s.store ≠ [] ∨ ∃ ev ∈ evs, ev.writes s.store.pendingPath = true) →
    v.buffer s.store = lines

/-! ## What the events tell -/

theorem Loaded.takes (h : s.Loaded w v evs (.ok (some lines))) (rest : List Event) :
    s.Takes w (evs ++ rest) lines := by
  cases h with
  | recovered a hfiles hleft => exact .inl ⟨hleft, rfl⟩
  | fetched a hcursor hempty text b hstored => exact .inr ⟨hempty, text, by simp, rfl⟩

theorem Loaded.of_unlisted {r : Except SourceError (Option (List String))} (h : s.Loaded w v evs r)
    {e : SourceError} (hmem : ⟨.ask (.ipmi .logList), .error e⟩ ∈ evs) :
    r = .error e ∧ v.files = w.files := by
  cases h with
  | unlisted a hfiles hempty e' =>
    obtain rfl : e = e' := by simpa using hmem
    exact ⟨rfl, hfiles⟩
  | _ => simp at hmem

/-- Getting the lines tells of nothing; the plan tells of its entries. -/
theorem Loaded.told {r : Except SourceError (Option (List String))} (h : s.Loaded w v evs r)
    (es : List LogEntry) (p : TailPlan) (rest : List Event) :
    HealthAgent.handled (evs ++ ⟨.plan es p, ()⟩ :: rest) = HealthAgent.handled rest ∧
      delivered (evs ++ ⟨.plan es p, ()⟩ :: rest) = delivered rest ∧
      planned (evs ++ ⟨.plan es p, ()⟩ :: rest) = es ++ planned rest := by
  obtain ⟨hhandled, hdelivered, hplanned⟩ := silent_of_tasks (task_ne h.tasks (by decide))
  rw [handled_append, delivered_append, planned_append, hhandled, hdelivered, hplanned]
  exact ⟨rfl, rfl, rfl⟩

/-- A cycle gets its lines first; what comes then does not list the log and does not check the usage.
Without lines there is nothing more to do. -/
theorem Processed.loaded {r : Except SourceError Unit} (h : s.Processed w v evs r s') :
    ∃ loading rest u r₁, evs = loading ++ rest ∧ s.Loaded w u loading r₁ ∧
      (∀ ev ∈ rest, ev.act.task ∈ [.describe, .report, .store]) ∧
      ∀ e, r₁ = .error e → r = .error e ∧ s' = s ∧ v = u ∧ rest = [] := by
  have hmore : ∀ {us : List TailPlan.Unseen} {handling : List Event} {r : Except SourceError Unit}
      (es : List LogEntry) (p : TailPlan), s.Dispatched us handling r →
      ∀ ev ∈ ⟨.plan es p, ()⟩ :: handling, ev.act.task ∈ [.describe, .report, .store] := by
    intro us handling r es p hdispatched
    refine List.forall_mem_cons.2 ⟨.tail _ (.head _), fun ev hev => ?_⟩
    exact List.mem_append_left [.store] (hdispatched.tasks ev hev)
  cases h with
  | unread hloaded => exact ⟨_, [], v, _, (List.append_nil _).symm, hloaded, by simp, nofun⟩
  | unlisted hloaded =>
    refine ⟨_, [], v, _, (List.append_nil _).symm, hloaded, by simp, ?_⟩
    rintro e ⟨⟩
    exact ⟨rfl, rfl, rfl, rfl⟩
  | stopped hloaded hkept hdispatched =>
    exact ⟨_, _, _, _, rfl, hloaded, hmore _ _ hdispatched, nofun⟩
  | through hloaded hdispatched hstoring =>
    refine ⟨_, _, _, _, List.append_assoc .., hloaded, ?_, nofun⟩
    refine List.forall_mem_append.2 ⟨hmore _ _ hdispatched, fun ev hev => ?_⟩
    exact List.mem_append_right [.describe, .report] (hstoring ev hev)

theorem Processed.tasks {r : Except SourceError Unit} (h : s.Processed w v evs r s') :
    ∀ ev ∈ evs, ev.act.task ≠ .usage := by
  obtain ⟨loading, rest, u, r₁, rfl, hloaded, hrest, -⟩ := h.loaded
  exact List.forall_mem_append.2
    ⟨task_ne hloaded.tasks (by decide), task_ne hrest (by decide)⟩

/-- If the log is not listed, there is nothing to do, and nothing changes. -/
theorem Processed.of_unlisted {r : Except SourceError Unit} (h : s.Processed w v evs r s')
    {e : SourceError} (hmem : ⟨.ask (.ipmi .logList), .error e⟩ ∈ evs) :
    r = .error e ∧ s' = s ∧ v.files = w.files ∧ delivered evs = [] := by
  obtain ⟨loading, rest, u, r₁, rfl, hloaded, hrest, hnone⟩ := h.loaded
  have hfirst : ⟨.ask (.ipmi .logList), .error e⟩ ∈ loading := by
    refine (List.mem_append.1 hmem).resolve_right fun hlater => ?_
    exact task_ne hrest (t := .list) (by decide) _ hlater rfl
  obtain ⟨rfl, hfiles⟩ := hloaded.of_unlisted hfirst
  obtain ⟨rfl, rfl, rfl, rfl⟩ := hnone e rfl
  rw [List.append_nil]
  exact ⟨rfl, rfl, hfiles, (silent_of_tasks (task_ne hloaded.tasks (by decide))).2.1⟩

/-- The cursor at the check of the usage is the one that the commit has left. -/
theorem Processed.next (h : s.Processed w v evs (.ok ()) s') :
    s'.cursor = (TailPlan.make (planned evs) s.cursor).nextCursor.getD s.cursor := by
  cases h with
  | unread hloaded =>
    rw [(silent_of_tasks (task_ne hloaded.tasks (by decide))).2.2]
    rfl
  | through hloaded hdispatched hstoring =>
    have hsilent := silent_of_tasks (task_ne hstoring (t := .report) (by decide))
    cases hdispatched with
    | through hhandled =>
      rw [planned_append, (hloaded.told _ _ _).2.2, hhandled.planned, hsilent.2.2, List.append_nil,
        List.append_nil]

/-- A cycle that gets to the check of the usage has had every sensor described. -/
theorem Processed.described (h : s.Processed w v evs (.ok ()) s') :
    ∀ ev ∈ evs, ev.undescribed = false := by
  have hother : ∀ {evs : List Event} {ts : List Task}, (∀ ev ∈ evs, ev.act.task ∈ ts) →
      .describe ∉ ts → ∀ ev ∈ evs, ev.undescribed = false :=
    fun htasks hts ev hev => Event.undescribed_eq_false (task_ne htasks hts ev hev)
  cases h with
  | unread hloaded => exact hother hloaded.tasks (by decide)
  | through hloaded hdispatched hstoring =>
    cases hdispatched with
    | through hhandled =>
      exact List.forall_mem_append.2 ⟨List.forall_mem_append.2 ⟨hother hloaded.tasks (by decide),
        List.forall_mem_cons.2 ⟨rfl, hhandled.described⟩⟩, hother hstoring (by decide)⟩

theorem Loaded.halted {u : World} {loading handling : List Event} {p : TailPlan} {ev : Event}
    {before after : List TailPlan.Unseen} {x : TailPlan.Unseen}
    (h : s.Loaded w u loading (.ok (some lines))) (hkept : v.files = u.files)
    (hunseen : (TailPlan.make (LogEntry.parseLines lines) s.cursor).unseen = before ++ x :: after)
    (hhandled : s.Handled (before.map (·.entry)) handling) (hlost : ev.undescribed = true) :
    s.Halted w v (loading ++ ⟨.plan (LogEntry.parseLines lines) p, ()⟩ :: (handling ++ [ev])) lines
      before x after := by
  have htask : ev.act.task = .describe := Event.task_of_undescribed hlost
  have hother : ∀ ev' ∈ [ev], ev'.act.task ≠ .report := by simp [htask]
  obtain ⟨hnone, hquiet, -⟩ := silent_of_tasks hother
  obtain ⟨htold, hdelivered, -⟩ := h.told (LogEntry.parseLines lines) p (handling ++ [ev])
  refine ⟨h.takes _, hunseen, ?_, ?_, ?_, ?_⟩
  · rw [htold, handled_append, hhandled.handled, hnone, List.append_nil]
  · rw [hdelivered, delivered_append, hquiet, List.append_nil]
    exact hhandled.alerts
  · rw [hkept, h.cursor]
  · intro hstored
    have hsame : v.buffer s.store = u.buffer s.store := by simp only [World.buffer, hkept]
    have hrest : ∀ ev' ∈ ⟨.plan (LogEntry.parseLines lines) p, ()⟩ :: (handling ++ [ev]),
        ev'.act.task ≠ .store :=
      List.forall_mem_cons.2 ⟨by simp [Act.task], List.forall_mem_append.2
        ⟨task_ne hhandled.tasks (by decide), by simp [htask]⟩⟩
    rw [hsame]
    refine h.buffer (hstored.imp_right ?_)
    rintro ⟨ev', hmem, hwrites⟩
    refine ⟨ev', (List.mem_append.1 hmem).resolve_right fun hlater => ?_, hwrites⟩
    rw [Event.writes_eq_false (hrest ev' hlater)] at hwrites
    cases hwrites

/-- If a sensor is not described, the cycle ends there. -/
theorem Processed.of_undescribed {r : Except SourceError Unit} (h : s.Processed w v evs r s')
    {ev : Event} (hmem : ev ∈ evs) (hlost : ev.undescribed = true) :
    (∃ e, r = .error e ∧ e.isTerminal = true) ∧ s' = s ∧
      ∃ lines before x after, s.Halted w v evs lines before x after := by
  have htask := Event.task_of_undescribed hlost
  have hwhole := h
  cases h with
  | unread hloaded => exact absurd htask (task_ne hloaded.tasks (by decide) ev hmem)
  | unlisted hloaded => exact absurd htask (task_ne hloaded.tasks (by decide) ev hmem)
  | stopped hloaded hkept hdispatched =>
    cases hdispatched with
    | stopped hunseen hhandled hterminal hlast =>
      exact ⟨⟨_, rfl, hterminal⟩, rfl, _, _, _, _, hloaded.halted hkept hunseen hhandled hlast⟩
  | through hloaded hdispatched hstoring =>
    have hnone := hwhole.described ev hmem
    rw [hlost] at hnone
    cases hnone

/-- A cycle that finds lines in the buffer handles the plan for them from the beginning to the end, if
it can read the buffer and every sensor is described. -/
theorem Processed.whole {r : Except SourceError Unit} (h : s.Processed w v evs r s')
    (hlines : w.buffer s.store ≠ [])
    (hall : ∀ ev ∈ evs, ev.legible = true ∧ ev.undescribed = false) :
    HealthAgent.handled evs = TailPlan.todo (LogEntry.parseLines (w.buffer s.store)) s.cursor ∧
      s.AlertsFor (TailPlan.todo (LogEntry.parseLines (w.buffer s.store)) s.cursor)
        (delivered evs) := by
  cases h with
  | unread hloaded =>
    cases hloaded with
    | unreadable a hfiles hillegible =>
      have hlegible := (hall _ List.mem_cons_self).1
      rw [hillegible] at hlegible
      cases hlegible
  | unlisted hloaded =>
    cases hloaded with
    | unlisted a hfiles hempty => exact absurd hempty hlines
  | stopped hloaded hkept hdispatched =>
    cases hdispatched with
    | stopped hunseen hhandled hterminal hlost =>
      have hnone :=
        (hall _ (List.mem_append_right _ (.tail _ (List.mem_append_right _ (.head _))))).2
      rw [hlost] at hnone
      cases hnone
  | through hloaded hdispatched hstoring =>
    obtain ⟨htold, hdelivered, -⟩ := hloaded.told _ _ _
    obtain ⟨hnone, hquiet, -⟩ := silent_of_tasks (task_ne hstoring (t := .report) (by decide))
    cases hdispatched with
    | through hhandled =>
      cases hloaded with
      | fetched a hcursor hempty => exact absurd hempty hlines
      | recovered a hfiles hleft =>
        rw [handled_append, delivered_append, htold, hdelivered, hnone, hquiet, List.append_nil,
          List.append_nil]
        exact ⟨hhandled.handled, hhandled.alerts⟩

end LogSensor

/-! ## Cycles after the one that was given up -/

/-- With this cursor, a cycle that finds these lines in the buffer handles all entries that the plan for
them leaves to do, if it can read the buffer and every sensor is described. -/
def LogStore.Repeats (st : LogStore) (cursor : UInt64) (lines : List String) : Prop :=
  ∀ (ρ : Rules) (t t' : LogSensor) (now : Nat) (o : Outcome) (w v : World) (evs : List Event),
    ρ.Orderly → t.store = st → t.cursor = cursor → w.buffer st = lines →
    Runs ρ.Step (t.pollActs now) w (some (o, t')) v → v.history = w.history ++ evs →
    (∀ ev ∈ evs, ev.legible = true ∧ ev.undescribed = false) →
    handled evs = TailPlan.todo (LogEntry.parseLines lines) cursor ∧
      t.AlertsFor (TailPlan.todo (LogEntry.parseLines lines) cursor) (delivered evs)

section
variable {ρ : Rules} (hρ : ρ.Orderly) {s s' : LogSensor} (hst : s.store.Apart) {w v : World}
include hρ hst

theorem runs_retryCursor {s₁ : LogSensor} (h : Runs ρ.Step (acts s.retryCursor) w (some s₁) v) :
    (∃ unsaved, s₁ = { s with cursorUnsaved := unsaved }) ∧ v.buffer s.store = w.buffer s.store := by
  obtain ⟨hs₁, hp | ⟨bytes, hm⟩⟩ := (ensures_retryCursor hρ s hst w _ v h).2 _ rfl
  · exact ⟨hs₁, hp.buffer⟩
  · exact ⟨hs₁, hm.buffer⟩

theorem processed_whole {r : Except SourceError Unit} (hlines : w.buffer s.store ≠ [])
    (h : Runs ρ.Step s.processActs w (some (r, s')) v) {evs : List Event}
    (hevs : v.history = w.history ++ evs)
    (hall : ∀ ev ∈ evs, ev.legible = true ∧ ev.undescribed = false) :
    handled evs = TailPlan.todo (LogEntry.parseLines (w.buffer s.store)) s.cursor ∧
      s.AlertsFor (TailPlan.todo (LogEntry.parseLines (w.buffer s.store)) s.cursor)
        (delivered evs) := by
  obtain ⟨s₁, u, evs₁, hretry, hevs₁, hprocessed⟩ := runs_processActs hρ hst h
  obtain ⟨evs₀, hevs₀⟩ := exists_events hρ hretry
  obtain ⟨⟨unsaved, rfl⟩, hbuffer⟩ := runs_retryCursor hρ hst hretry
  obtain rfl := events_append hevs hevs₀ hevs₁
  have hstored := (onlyFor_retryCursor s).events hρ hretry hevs₀
  obtain ⟨hnone, hquiet, -⟩ := silent_of_tasks (task_ne hstored (t := .report) (by decide))
  have hwhole := hprocessed.whole (hbuffer ▸ hlines) fun ev hev =>
    hall ev (List.mem_append_right _ hev)
  rw [handled_append, delivered_append, hnone, hquiet, List.nil_append, List.nil_append, ← hbuffer]
  exact hwhole

end

/-- A cycle handles the plan for the lines in its buffer from the beginning. -/
theorem LogStore.repeats {st : LogStore} (hst : st.Apart) (cursor : UInt64) {lines : List String}
    (hlines : lines ≠ []) : st.Repeats cursor lines := by
  rintro ρ t t' now o w v evs hρ rfl rfl rfl h hevs hall
  obtain ⟨e, hprocess, -⟩ | ⟨t₁, u, r, hprocess, hcheck, -⟩ := runs_pollActs h
  · exact processed_whole hρ hst hlines hprocess hevs hall
  · obtain ⟨evs₁, hevs₁⟩ := exists_events hρ hprocess
    obtain ⟨evs₂, hevs₂⟩ := exists_events hρ hcheck
    obtain rfl := events_append hevs hevs₁ hevs₂
    have htasks := (onlyFor_checkUsage t₁ now).events hρ hcheck hevs₂
    obtain ⟨hnone, hquiet, -⟩ := silent_of_tasks (task_ne htasks (t := .report) (by decide))
    rw [handled_append, delivered_append, hnone, hquiet, List.append_nil, List.append_nil]
    exact processed_whole hρ hst hlines hprocess hevs₁ fun ev hev =>
      hall ev (List.mem_append_left _ hev)

/-! ## Trials -/

def Event.fails (q : IpmiRequest) : Event → Bool
  | ⟨.ask (.ipmi r), .error _⟩ => r = q
  | _ => false

theorem Event.exists_of_fails (q : IpmiRequest) (evs : List Event)
    (h : evs.any (Event.fails q) = true) : ∃ e, ⟨.ask (.ipmi q), .error e⟩ ∈ evs := by
  obtain ⟨ev, hmem, hfails⟩ := List.any_eq_true.1 h
  unfold fails at hfails
  split at hfails
  · next r e =>
    obtain rfl : r = q := by simpa using hfails
    exact ⟨e, hmem⟩
  · cases hfails

/-- The answers of a world in which the management tool is gone for some requests. -/
def Replies.without (R : Replies) (gone : IpmiRequest → Bool) (a : Act) (w : World) :
    a.Answer × World :=
  match a with
  | .ask (.ipmi r) =>
    let answer := if gone r then .error (.dependencyMissing "ipmitool")
      else R.answer w (.ask (.ipmi r))
    (answer, w.after (.ask (.ipmi r)) answer)
  | a => R.handle a w

theorem Replies.runs_without (R : Replies) (gone : IpmiRequest → Bool) {α : Type} (n : Nat)
    (p : ActProgram α) (w : World) : Runs Rules.still.Step p w
      (p.runFor (R.without gone) n w).1 (p.runFor (R.without gone) n w).2 := by
  refine runs_runFor (R.without gone) id (fun a w => ?_) n p w
  have hallows : w.allows a (R.without gone a w).1 := by
    unfold Replies.without
    split
    · split
      · cases ‹IpmiRequest› <;> simp [World.allows]
      · exact R.allows w _
    · exact R.allows w a
  refine ⟨w, rfl, hallows, trivial, ?_⟩
  unfold Replies.without
  split <;> rfl

namespace Trial

def twoFans : Replies := replies "95%" "Fan 1 | 30h\nFan 2 | 31h\n" (.ok "")

/-- A sensor before its first cycle. Of the three entries in the log, the second is about the other
fan. -/
def armed : Machine :=
  (fresh (line "1" "Lower Critical going low" ++
    "2|||Fan #0x31|Lower Critical going low|Asserted\n" ++
    line "3" "Lower Critical going high")).launch twoFans 100 "state" config context .utc

/-- The first cycle of this sensor, in which the management tool is gone for some requests. -/
def givenUp (gone : IpmiRequest → Bool) : Option (Outcome × LogSensor) × World :=
  match armed with
  | ⟨some s, w⟩ => (s.pollActs 0).runFor (twoFans.without gone) 100 w
  | ⟨none, w⟩ => (none, w)

def events (gone : IpmiRequest → Bool) : List Event :=
  (givenUp gone).2.history.drop armed.world.history.length

theorem runs_givenUp (gone : IpmiRequest → Bool)
    (h : (givenUp gone).1.map Prod.fst = some .shutdown) : ∃ s s' : LogSensor,
      s.store.Apart ∧ s.cursorUnsaved = false ∧ s.cursor = 0 ∧
      Runs Rules.still.Step (s.pollActs 0) armed.world (some (.shutdown, s')) (givenUp gone).2 ∧
      (givenUp gone).2.history = armed.world.history ++ events gone := by
  have hsensor : armed.sensor.map (fun s => (decide (s.store.cursorPath ≠ s.store.pendingPath),
      s.cursorUnsaved, s.cursor)) = some (true, false, 0) := by decide +kernel
  obtain ⟨s, hs, hfields⟩ := Option.map_eq_some_iff.1 hsensor
  simp only [Prod.mk.injEq, decide_eq_true_eq] at hfields
  obtain ⟨hst, hsaved, hcursor⟩ := hfields
  have hcycle : givenUp gone = (s.pollActs 0).runFor (twoFans.without gone) 100 armed.world := by
    rw [givenUp, show armed = ⟨some s, armed.world⟩ by rw [← hs]]
  have hrun := twoFans.runs_without gone 100 (s.pollActs 0) armed.world
  rw [← hcycle] at hrun
  obtain ⟨⟨o, s'⟩, hend, rfl⟩ := Option.map_eq_some_iff.1 h
  rw [hend] at hrun
  refine ⟨s, s', hst, hsaved, hcursor, hrun, ?_⟩
  exact (List.prefix_iff_eq_append.1 (runs_history Rules.still_still.orderly hrun)).symm

end Trial

/-! ## The cycle that was given up -/

theorem LogSensor.Halted.lines_ne_nil {s : LogSensor} {w v : World} {evs : List Event}
    {lines : List String} {before after : List TailPlan.Unseen} {x : TailPlan.Unseen}
    (h : s.Halted w v evs lines before x after) : lines ≠ [] := by
  rintro rfl
  exact absurd h.unseen (List.append_ne_nil_of_right_ne_nil before (List.cons_ne_nil x after)).symm

section
variable {ρ : Rules} (hρ : ρ.Orderly) {s s' : LogSensor} (hst : s.store.Apart)
  (hsaved : s.cursorUnsaved = false) {w v : World}
include hρ hst hsaved

/-- A cycle whose cursor has been written starts with getting its lines. -/
theorem runs_processActs_saved {r : Except SourceError Unit}
    (h : Runs ρ.Step s.processActs w (some (r, s')) v) :
    ∃ evs, v.history = w.history ++ evs ∧ s.Processed w v evs r s' := by
  obtain ⟨s₁, u, evs, hretry, hevs, hprocessed⟩ := runs_processActs hρ hst h
  rw [LogSensor.retryCursor, hsaved] at hretry
  obtain ⟨rfl, rfl⟩ := hretry.of_done
  exact ⟨evs, hevs, hprocessed⟩

/-- What a cycle leaves in which a request to the management controller has failed. If the log was not
listed, nothing has changed and nothing was delivered or asked for. If a sensor was not described, the
cursor is what it was, the entries before the one in question have been handled, and the lines are in
the buffer, from which a later cycle with the same cursor takes up the whole plan. If the usage could
not be checked, the cursor is what the commit has left. -/
theorem aborted_cycle {now : Nat} {o : Outcome}
    (h : Runs ρ.Step (s.pollActs now) w (some (o, s')) v) {evs : List Event}
    (hevs : v.history = w.history ++ evs) :
    (∀ e, ⟨.ask (.ipmi .logList), .error e⟩ ∈ evs →
      o = .ofResult (.error e) ∧ s' = s ∧ v.files = w.files ∧ delivered evs = [] ∧
        ∀ ev ∈ evs, ev.act.task ≠ .usage) ∧
    (∀ ev ∈ evs, ev.undescribed = true →
      o = .shutdown ∧ s' = s ∧ ∃ lines before x after, s.Halted w v evs lines before x after ∧
        s.store.Repeats s.cursor lines) ∧
    (∀ e, ⟨.ask (.ipmi .logInfo), .error e⟩ ∈ evs ∨ ⟨.ask (.ipmi .logClear), .error e⟩ ∈ evs →
      o = .ofResult (if e.isTerminal then .error e else .ok ()) ∧
        ∃ s₁ u usage, Runs ρ.Step s.processActs w (some (.ok (), s₁)) u ∧ s' = { s₁ with usage } ∧
          s₁.cursor = (TailPlan.make (planned evs) s.cursor).nextCursor.getD s.cursor ∧
          v.files = u.files) := by
  obtain ⟨e, hprocess, rfl⟩ | ⟨s₁, u, r, hprocess, hcheck, rfl⟩ := runs_pollActs h
  · -- The cycle has not got to the check of the usage.
    obtain ⟨evs', hevs', hprocessed⟩ := runs_processActs_saved hρ hst hsaved hprocess
    obtain rfl : evs = evs' := List.append_cancel_left (hevs.symm.trans hevs')
    refine ⟨fun e' hmem => ?_, fun ev hmem hlost => ?_, fun e' hmem => ?_⟩
    · obtain ⟨he, hs, hfiles, hnone⟩ := hprocessed.of_unlisted hmem
      cases he
      exact ⟨rfl, hs, hfiles, hnone, hprocessed.tasks⟩
    · obtain ⟨⟨e', he, hterminal⟩, hs, lines, before, x, after, hhalted⟩ :=
        hprocessed.of_undescribed hmem hlost
      cases he
      refine ⟨by simp [Outcome.ofResult, hterminal], hs, lines, before, x, after, hhalted, ?_⟩
      exact LogStore.repeats hst s.cursor hhalted.lines_ne_nil
    · rcases hmem with hinfo | hclear
      · exact absurd rfl (hprocessed.tasks _ hinfo)
      · exact absurd rfl (hprocessed.tasks _ hclear)
  · -- All requests up to the check of the usage have been answered.
    obtain ⟨evs₁, hevs₁, hprocessed⟩ := runs_processActs_saved hρ hst hsaved hprocess
    obtain ⟨evs₂, hevs₂⟩ := exists_events hρ hcheck
    obtain rfl := events_append hevs hevs₁ hevs₂
    have htasks := (onlyFor_checkUsage s₁ now).events hρ hcheck hevs₂
    refine ⟨fun e hmem => ?_, fun ev hmem hlost => ?_, fun e hmem => ?_⟩
    · rcases List.mem_append.1 hmem with hfirst | hlater
      · cases (hprocessed.of_unlisted hfirst).1
      · exact absurd rfl (task_ne htasks (t := .list) (by decide) _ hlater)
    · rcases List.mem_append.1 hmem with hfirst | hlater
      · rw [hprocessed.described ev hfirst] at hlost
        cases hlost
      · exact absurd (Event.task_of_undescribed hlost) (task_ne htasks (by decide) ev hlater)
    · have hlater : ∀ {q : IpmiRequest}, (Request.ipmi q).task = .usage →
          ⟨.ask (.ipmi q), .error e⟩ ∈ evs₁ ++ evs₂ → ⟨.ask (.ipmi q), .error e⟩ ∈ evs₂ := by
        intro q htask hmem
        exact (List.mem_append.1 hmem).resolve_left fun hfirst => hprocessed.tasks _ hfirst htask
      obtain ⟨rfl, ⟨usage, rfl⟩, hfiles⟩ :=
        runs_checkUsage_failed hρ hcheck hevs₂ (hmem.imp (hlater rfl) (hlater rfl))
      refine ⟨rfl, s₁, u, usage, hprocess, rfl, ?_, hfiles⟩
      rw [planned_append, (silent_of_tasks (task_ne htasks (t := .report) (by decide))).2.2,
        List.append_nil]
      exact hprocessed.next

end

/-- The management tool is gone when the log is listed, when the second fan is described, and when
the log is cleared. -/
theorem aborted_cycle_trials :
    (∃ (s : LogSensor) (v : World) (evs : List Event),
      Runs Rules.still.Step (s.pollActs 0) Trial.armed.world (some (.shutdown, s)) v ∧
      v.history = Trial.armed.world.history ++ evs ∧ v.files = Trial.armed.world.files ∧
      delivered evs = []) ∧
    (∃ (s : LogSensor) (v : World) (evs : List Event),
      Runs Rules.still.Step (s.pollActs 0) Trial.armed.world (some (.shutdown, s)) v ∧
      (handled evs).map (·.index) = [1] ∧ ∃ lines before x after,
        s.Halted Trial.armed.world v evs lines before x after ∧ s.store.Repeats s.cursor lines) ∧
    ∃ (s s' s₁ : LogSensor) (v u : World) (usage : UsageMonitor),
      Runs Rules.still.Step (s.pollActs 0) Trial.armed.world (some (.shutdown, s')) v ∧
      Runs Rules.still.Step s.processActs Trial.armed.world (some (.ok (), s₁)) u ∧
      s' = { s₁ with usage } ∧ s₁.cursor = 3 ∧ v.files = u.files := by
  have hends :
      ((Trial.givenUp (· = .logList)).1.map Prod.fst = some .shutdown ∧
        (Trial.events (· = .logList)).any (Event.fails .logList) = true) ∧
      ((Trial.givenUp (· = .sensor "Fan 2")).1.map Prod.fst = some .shutdown ∧
        (Trial.events (· = .sensor "Fan 2")).any Event.undescribed = true ∧
        (handled (Trial.events (· = .sensor "Fan 2"))).map (·.index) = [1]) ∧
      (Trial.givenUp (· = .logClear)).1.map Prod.fst = some .shutdown ∧
        (Trial.events (· = .logClear)).any (Event.fails .logClear) = true ∧
        (TailPlan.make (planned (Trial.events (· = .logClear))) 0).nextCursor.getD 0 = 3 := by
    decide +kernel
  have hρ := Rules.still_still.orderly
  obtain ⟨⟨hlist, hunlisted⟩, ⟨hdescribe, hundescribed, hhandled⟩, hclear, hunclear, hthree⟩ := hends
  refine ⟨?_, ?_, ?_⟩
  · obtain ⟨s, s', hst, hsaved, -, hrun, hevs⟩ := Trial.runs_givenUp _ hlist
    obtain ⟨e, hmem⟩ := Event.exists_of_fails _ _ hunlisted
    obtain ⟨-, rfl, hfiles, hnone, -⟩ := (aborted_cycle hρ hst hsaved hrun hevs).1 e hmem
    exact ⟨_, _, _, hrun, hevs, hfiles, hnone⟩
  · obtain ⟨s, s', hst, hsaved, -, hrun, hevs⟩ := Trial.runs_givenUp _ hdescribe
    obtain ⟨ev, hmem, hlost⟩ := List.any_eq_true.1 hundescribed
    obtain ⟨-, rfl, hhalted⟩ := (aborted_cycle hρ hst hsaved hrun hevs).2.1 ev hmem hlost
    exact ⟨_, _, _, hrun, hhandled, hhalted⟩
  · obtain ⟨s, s', hst, hsaved, hcursor, hrun, hevs⟩ := Trial.runs_givenUp _ hclear
    obtain ⟨e, hmem⟩ := Event.exists_of_fails _ _ hunclear
    obtain ⟨-, s₁, u, usage, hprocess, hs', hnext, hfiles⟩ :=
      (aborted_cycle hρ hst hsaved hrun hevs).2.2 e (.inr hmem)
    rw [hcursor, hthree] at hnext
    exact ⟨s, s', s₁, _, u, usage, hrun, hprocess, hs', hnext, hfiles⟩

end HealthAgent
