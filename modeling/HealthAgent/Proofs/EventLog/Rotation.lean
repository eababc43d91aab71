import HealthAgent.Proofs.EventLog.Completed
import HealthAgent.Proofs.EventLog.CrashSafety
/-!
# After a log that has lost the cursor's entry

If the log that a cycle lists does not hold the cursor's entry, all of its entries are handled and the
cursor moves to the last of them. An empty log has no last entry: the cursor stays what it was, the
number of an entry that is gone, and a later entry with that number is taken for it.

Results:
* `listed_cycle`: what a cycle that lists the log handles, and the cursor that it leaves.
* `new_entries_handled_iff`: the next cycle handles all that is new, except after an empty log whose
  successor reaches the cursor's number.
* `empty_log_loses_entries`: a run where it does.
-/
namespace HealthAgent
open Program World

/-! ## A cycle that lists the log -/

variable {ρ : Rules} {s s' : LogSensor} {w u v : World} {evs : List Event}

/-- Up to the check of the usage, a cycle that lists the log handles all that is unseen of it. -/
theorem World.Cycled.listed {cursor : UInt64} {cleared : Bool} (h : w.Cycled ρ s u (.ok ()) cursor)
    (hstill : u.entries = w.entries) (hclose : u.Closes cleared v)
    (hevs : v.history = w.history ++ evs) (hlisted : ∃ ev ∈ evs, ev.lists = true) :
    handled evs = TailPlan.todo w.entries s.cursor ∧ evs.any Event.clears = cleared ∧
      cursor = (TailPlan.make w.entries s.cursor).nextCursor.getD s.cursor := by
  obtain ⟨l, ps, as, hsince, hcursor, hsource⟩ := h.told hstill
  obtain ⟨hhandled, hlists, hclears⟩ := hsince.closed hclose hevs
  rcases hsource with ⟨-, rfl⟩ | ⟨hnot, -⟩
  · exact ⟨hhandled, hclears, hcursor⟩
  · rw [hnot, List.any_eq_true.2 hlisted] at hlists
    cases hlists

/-- What a completed cycle that lists the log handles, and the cursor that it leaves. -/
theorem listed_cycle {o : Outcome} (hρ : ρ.Still) (h : w.Polled ρ s v o s')
    (ho : o = .proceed) (hevs : v.history = w.history ++ evs)
    (hlisted : ∃ ev ∈ evs, ev.lists = true) :
    handled evs = TailPlan.todo w.entries s.cursor ∧ s'.store = s.store ∧
      (evs.any Event.clears = true ∧ s'.cursor = 0 ∨
        evs.any Event.clears = false ∧ w.entries <+: v.entries ∧
          s'.cursor = (TailPlan.make w.entries s.cursor).nextCursor.getD s.cursor) := by
  cases h with
  | @failed e cursor unsaved hcycled =>
    cases hcycled with
    | idle r hsince hgrown hbuffer =>
      obtain ⟨evs₁, hhistory₁, -, hlists₁, -⟩ := hsince
      rw [hhistory₁] at hevs
      rw [List.append_cancel_left hevs, List.any_eq_true.2 hlisted] at hlists₁
      cases hlists₁
    | fatal e hfatal =>
      simp only [Outcome.ofResult, hfatal.1, if_true] at ho
      cases ho
  | kept hcycled hstill hchecks =>
    have hcycle := hcycled.listed (hstill hρ) hchecks.closes hevs hlisted
    obtain ⟨hhandled, hclears, hcursor⟩ := hcycle
    have hgrown := hchecks.extends.entries
    rw [hstill hρ] at hgrown
    exact ⟨hhandled, rfl, .inr ⟨hclears, hgrown, hcursor⟩⟩
  | @cleared _ u t cursor unsaved usage hcycled hstill hchecks hreset =>
    have hcycle := hcycled.listed (hstill hρ) (hchecks.closes.trans (.reset hreset)) hevs hlisted
    obtain ⟨hhandled, hclears, -⟩ := hcycle
    exact ⟨hhandled, rfl, .inl ⟨hclears, rfl⟩⟩

/-! ## The next cycle -/

/-- Behind a cursor that is not in the log, all is handled, and the cursor moves to the last entry. -/
theorem next_of_missing {cursor : UInt64} (h : ∀ e ∈ w.entries, e.index ≠ cursor) :
    (TailPlan.make w.entries cursor).nextCursor.getD cursor = lastIndex cursor w.entries := by
  rw [TailPlan.nextCursor_getD, TailPlan.todo_of_missing h]

/-- What is new in a log that has got longer is to be handled exactly if the old log was not empty, or
the new one does not hold the old cursor. -/
theorem todo_new_iff {es new : List LogEntry} {cursor : UInt64} (hdistinct : Distinct (es ++ new)) :
    (∀ x ∈ es ++ new, x ∉ es → x ∈ TailPlan.todo (es ++ new) (lastIndex cursor es)) ↔
      es ≠ [] ∨ ∀ e ∈ es ++ new, e.index ≠ cursor := by
  by_cases hes : es = []
  · subst hes
    simp only [List.nil_append, List.not_mem_nil, not_false_eq_true, forall_const, ne_eq, not_true,
      false_or] at hdistinct ⊢
    exact TailPlan.all_todo_iff hdistinct cursor
  · have htodo : TailPlan.todo (es ++ new) (lastIndex cursor es) = new := by
      rw [lastIndex_of_ne_nil hes cursor 0]
      exact TailPlan.todo_of_append hdistinct
    refine ⟨fun _ => .inl hes, fun _ x hx hnot => ?_⟩
    rw [htodo]
    exact (List.mem_append.1 hx).resolve_left hnot

/-- Whether a state file could not be read or replaced. -/
def Event.blocked : Event → Bool
  | ⟨.ask (.file (.load _)), .failed⟩ => true
  | ⟨.ask (.file (.replace _ _)), a⟩ => a ≠ .written
  | _ => false

/-- Two cycles end that have listed the log. In between, the log has got longer. It did not hold the
cursor's entry at the first one. -/
structure Relisted (s s₁ s₂ : LogSensor) (w v u t : World) (evs evs' : List Event) : Prop where
  first : ∃ now, Runs Rules.still.Step (s.pollActs now) w (some (.proceed, s₁)) v
  events : v.history = w.history ++ evs
  listed : ∃ ev ∈ evs, ev.lists = true
  missing : ∀ e ∈ w.entries, e.index ≠ s.cursor
  appended : v.entries <+: u.entries
  distinct : Distinct u.entries
  second : ∃ now, Runs Rules.still.Step (s₁.pollActs now) u (some (.proceed, s₂)) t
  events' : t.history = u.history ++ evs'
  listed' : ∃ ev ∈ evs', ev.lists = true

namespace Trial

def ahead : Machine :=
  ((fresh (line "1" "")).launch keeping 100 "state" config context .utc).cycle keeping 100 0

def one (first : String) : Machine := (ahead.withLog first).cycle keeping 100 0

def two (first second : String) : Machine := ((one first).withLog second).cycle keeping 100 0

/-- Both cycles end and list their logs. The first log does not hold the cursor's entry, the second one
is a longer one. -/
def Lists (first second : String) : Prop :=
  ((ahead.withLog first).outcome keeping 100 0 = some .proceed ∧
    ((ahead.withLog first).eventsTo (one first)).any Event.lists = true ∧
    ∀ e ∈ (ahead.withLog first).world.entries, e.index ≠ 1) ∧
  ((one first).withLog second).outcome keeping 100 0 = some .proceed ∧
    (((one first).withLog second).eventsTo (two first second)).any Event.lists = true ∧
    (one first).world.entries <+: ((one first).withLog second).world.entries ∧
    Distinct ((one first).withLog second).world.entries

instance (first second : String) : Decidable (Lists first second) :=
  inferInstanceAs (Decidable (_ ∧ _))

theorem Lists.relisted {first second : String} (h : Lists first second) :
    ∃ s s₁ s₂, ahead.sensor = some s ∧ s.store = .inFolder "state" ∧
      Relisted s s₁ s₂ (ahead.withLog first).world (one first).world
        ((one first).withLog second).world (two first second).world
        ((ahead.withLog first).eventsTo (one first))
        (((one first).withLog second).eventsTo (two first second)) := by
  obtain ⟨⟨hdone, hlisted, hmissing⟩, hdone', hlisted', happended, hdistinct⟩ := h
  have hρ := Rules.still_still.orderly
  obtain ⟨s, s₁, hs, hs₁, hrun, hevs⟩ := Machine.exists_completed hρ keeping.obey_still hdone
  obtain ⟨s₁', s₂, hs₁', -, hrun', hevs'⟩ := Machine.exists_completed hρ keeping.obey_still hdone'
  obtain rfl : s₁ = s₁' := Option.some.inj (hs₁.symm.trans hs₁')
  change ahead.sensor = some s at hs
  have hstate : ahead.sensor.map (·.store) = some (.inFolder "state") ∧
      ahead.sensor.map (·.cursor) = some 1 := by decide +kernel
  rw [hs] at hstate
  obtain ⟨hstore, hcursor⟩ := hstate
  have hstore : s.store = .inFolder "state" := Option.some.inj hstore
  have hcursor : s.cursor = 1 := Option.some.inj hcursor
  refine ⟨s, s₁, s₂, hs, hstore, ⟨0, hrun⟩, hevs, List.any_eq_true.1 hlisted, ?_, happended,
    hdistinct, ⟨0, hrun'⟩, hevs', List.any_eq_true.1 hlisted'⟩
  rw [hcursor]
  exact hmissing

end Trial

/-- If a cycle has listed a log without the cursor's entry, and the log has got longer since, the next
cycle that lists it handles all that is new exactly if the first log was not empty, or the first cycle
has cleared it, or the longer log does not hold the first cursor. -/
theorem new_entries_handled_iff {folder : String} {s s₁ s₂ : LogSensor} {w v u t : World}
    {evs evs' : List Event} (hstore : s.store = .inFolder folder)
    (h : Relisted s s₁ s₂ w v u t evs evs') :
    (∀ x ∈ u.entries, x ∉ w.entries → x ∈ handled evs') ↔
      w.entries ≠ [] ∨ evs.any Event.clears = true ∨ ∀ e ∈ u.entries, e.index ≠ s.cursor := by
  obtain ⟨⟨now, hfirst⟩, hevs, hlisted, hmissing, happended, hdistinct, ⟨now', hnext⟩, hevs',
    hlisted'⟩ := h
  have hst : s.store.Apart := by
    rw [hstore]
    exact LogStore.inFolder_apart folder
  have hpolled := (ensures_polled Rules.still_still.orderly s hst now w _ v hfirst).2 _ rfl
  obtain ⟨-, hstore₁, hcursor⟩ := listed_cycle Rules.still_still hpolled rfl hevs hlisted
  rw [← hstore₁] at hst
  have hpolled' := (ensures_polled Rules.still_still.orderly s₁ hst now' u _ t hnext).2 _ rfl
  obtain ⟨hhandled, -⟩ := listed_cycle Rules.still_still hpolled' rfl hevs' hlisted'
  rw [hhandled]
  rcases hcursor with ⟨hclears, hzero⟩ | ⟨hclears, hgrown, hcursor⟩
  -- the first cycle has cleared the log, and the next one starts at 0
  · rw [hzero, TailPlan.todo_zero hdistinct, hclears]
    exact ⟨fun _ => .inr (.inl rfl), fun _ x hx _ => hx⟩
  -- it has not, and the next one starts behind its last entry, or where it started itself
  · obtain ⟨new, hnew⟩ := hgrown.trans happended
    rw [next_of_missing hmissing] at hcursor
    rw [← hnew] at hdistinct
    rw [hcursor, hclears, ← hnew, todo_new_iff hdistinct]
    simp

theorem new_entries_handled_longer : ∃ s s₁ s₂ w v u t evs evs',
    s.store = .inFolder "state" ∧ Relisted s s₁ s₂ w v u t evs evs' ∧ w.entries ≠ [] ∧
      u.entries ≠ w.entries ∧ ∀ x ∈ u.entries, x ∉ w.entries → x ∈ handled evs' := by
  have hlists : Trial.Lists (Trial.line "5" "") (Trial.line "5" "" ++ Trial.line "6" "") := by
    decide +kernel
  obtain ⟨s, s₁, s₂, -, hstore, h⟩ := hlists.relisted
  have hfull : (Trial.ahead.withLog (Trial.line "5" "")).world.entries ≠ [] := by decide +kernel
  refine ⟨s, s₁, s₂, _, _, _, _, _, _, hstore, h, hfull, by decide +kernel, ?_⟩
  exact (new_entries_handled_iff hstore h).2 (.inl hfull)

/-- After a cycle that has listed a log without entries, the next one loses one of two new ones, with
all state files read and replaced. -/
theorem empty_log_loses_entries : ∃ s w s₁ s₂ v u t evs evs',
    Machine.Reachable .uncleared (fun _ => True) "state" ⟨some s, w⟩ ∧
      Relisted s s₁ s₂ { w with log := "" } v u t evs evs' ∧
      (evs ++ evs').any Event.blocked = false ∧ u.entries.map (·.index) = [1, 2] ∧
      (handled evs').map (·.index) = [2] := by
  have hinc : Increasing (LogEntry.parseLines (Trial.line "1" "").writtenLines) := by decide +kernel
  have hobey := Trial.keeping_uncleared
  have hreach : Machine.Reachable .uncleared (fun _ => True) "state" Trial.ahead :=
    ((Trial.fresh_reachable hinc _ _ "state").launch hobey trivial Trial.config Trial.context
      .utc).cycle hobey 0
  have hlists : Trial.Lists "" (Trial.line "1" "" ++ Trial.line "2" "") := by decide +kernel
  obtain ⟨s, s₁, s₂, hs, -, h⟩ := hlists.relisted
  rw [show Trial.ahead = ⟨some s, Trial.ahead.world⟩ by rw [← hs]] at hreach
  refine ⟨s, _, s₁, s₂, _, _, _, _, _, hreach, h, ?_⟩
  decide +kernel

end HealthAgent
