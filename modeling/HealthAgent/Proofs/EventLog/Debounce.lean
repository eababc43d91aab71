import HealthAgent.Proofs.EventLog.UsageCheck
/-!
# How often the usage is asked for

The check is made in every cycle, but asks for the usage at most once in an interval, which begins with
a query that succeeded. The clock may stand still or go back: then a time before the last query is
within the interval. Through any number of checks, the time of the last query is never set back: every
later check that asks for anything comes an interval after it.

Results:
* `UsageMonitor.Checked.after_query`: what one check keeps of an earlier query.
* `UsageMonitor.Course.after_query`: later checks are quiet until the interval has passed.
* `UsageMonitor.Course.quiet_after_query`: of any two checks, if the first has queried.
* `usage_debounced`: the times of queries and clearings on every schedule, and what failures do.
-/
namespace HealthAgent
open Program World

namespace UsageMonitor

/-! ## When a check is due -/

/-- A check stays due when time passes. -/
theorem isDue_mono {m : UsageMonitor} {now later : Nat} (h : m.isDue now = true)
    (hle : now ≤ later) : m.isDue later = true := by
  unfold isDue at h ⊢
  cases hlast : m.lastQueried with
  | none => rfl
  | some last =>
    simp only [hlast, decide_eq_true_eq] at h ⊢
    omega

/-- A check that is due after a query comes an interval later: the difference of two times is positive
only if the first is the later one. -/
theorem le_of_isDue {m : UsageMonitor} {now last : Nat} (hm : 0 < m.intervalMs)
    (hlast : m.lastQueried = some last) (h : m.isDue now = true) : last + m.intervalMs ≤ now := by
  simp only [isDue, hlast, decide_eq_true_eq] at h
  omega

/-! ## One check -/

/-- The monitor has queried at this time or a later one. -/
def QueriedFrom (m : UsageMonitor) (time : Nat) : Prop :=
  ∃ last, m.lastQueried = some last ∧ time ≤ last

namespace Checked

variable {m m' : UsageMonitor} {now time : Nat} {evs : List Event} {r : Except SourceError Bool}

theorem intervalMs_eq (h : m.Checked now evs r m') : m'.intervalMs = m.intervalMs := by
  cases h with
  | early | untold | unknown | low | full => rfl

theorem isDue (h : m.Checked now evs r m') (hevs : evs ≠ []) : m.isDue now = true := by
  cases h with
  | early due => exact absurd rfl hevs
  | untold due | unknown due | low due | full due => exact due

theorem of_not_due (h : m.Checked now evs r m') (hdue : m.isDue now = false) :
    evs = [] ∧ r = .ok false ∧ m' = m := by
  cases h with
  | early => exact ⟨rfl, rfl, rfl⟩
  | untold due | unknown due | low due | full due =>
    rw [due] at hdue
    cases hdue

/-- A check after a query asks for nothing before the interval has passed, and leaves a monitor that
has queried then or later. -/
theorem after_query (h : m.Checked now evs r m') (hm : 0 < m.intervalMs)
    (hfrom : m.QueriedFrom time) :
    (evs ≠ [] → time + m.intervalMs ≤ now) ∧ m'.QueriedFrom time := by
  obtain ⟨last, hlast, hle⟩ := hfrom
  have hdue : m.isDue now = true → time + m.intervalMs ≤ now := by
    intro hdue
    have := le_of_isDue hm hlast hdue
    omega
  refine ⟨fun hevs => hdue (h.isDue hevs), ?_⟩
  cases h with
  | early | untold => exact ⟨last, hlast, hle⟩
  | unknown due | low due | full due =>
    have := hdue due
    exact ⟨now, rfl, by omega⟩

/-- A query that succeeded is kept in mind. -/
theorem queriedFrom (h : m.Checked now evs r m')
    (hquery : ∃ text, ⟨.ask (.ipmi .logInfo), .ok text⟩ ∈ evs) : m'.QueriedFrom now := by
  cases h with
  | early => simp at hquery
  | untold => simp at hquery
  | unknown | low | full => exact ⟨now, rfl, Nat.le_refl now⟩

theorem query_of_asksClear (h : m.Checked now evs r m') (hclear : ∃ ev ∈ evs, ev.asksClear = true) :
    ∃ text, ⟨.ask (.ipmi .logInfo), .ok text⟩ ∈ evs := by
  cases h with
  | early => simp at hclear
  | untold => simp [Event.asksClear] at hclear
  | unknown due text | low due text | full due text => exact ⟨text, List.mem_cons_self⟩

/-- A failed query changes nothing. -/
theorem eq_of_untold (h : m.Checked now evs r m') {e : SourceError}
    (hfailed : ⟨.ask (.ipmi .logInfo), .error e⟩ ∈ evs) : m' = m := by
  cases h with
  | early | untold => rfl
  | unknown | low | full => simp at hfailed

/-- A check tells of a clearing exactly if the log was cleared. -/
theorem result_iff (h : m.Checked now evs r m') :
    r = .ok true ↔ ∃ ev ∈ evs, ev.clears = true := by
  cases h with
  | full due text used percent above answer =>
    cases answer with
    | ok told => simp [Event.clears]
    | error e => cases hterminal : e.isTerminal <;> simp [Event.clears, hterminal]
  | early | untold | unknown | low => simp [Event.clears]

end Checked

/-! ## Checks one after the other -/

/-- A check: its time, the monitor before it, its events, how it ends, and the monitor after it. -/
structure Turn where
  now : Nat
  before : UsageMonitor
  events : List Event
  result : Except SourceError Bool
  after : UsageMonitor

/-- The check is a completed run, in some world. -/
def Turn.Made (ρ : Rules) (t : Turn) : Prop :=
  ∃ w v, Runs ρ.Step (acts (t.before.check t.now)) w (some (t.result, t.after)) v ∧
    v.history = w.history ++ t.events

/-- The usage has been told in the check. -/
def Turn.Queries (t : Turn) : Prop := ∃ text, ⟨.ask (.ipmi .logInfo), .ok text⟩ ∈ t.events

/-- The clearing of the log has been requested in the check. -/
def Turn.AsksClear (t : Turn) : Prop := ∃ ev ∈ t.events, ev.asksClear = true

/-- Checks at any times, each with the monitor that the one before it has left. -/
inductive Course (ρ : Rules) : UsageMonitor → List Turn → Prop
  | nil (m : UsageMonitor) : Course ρ m []
  | cons {t : Turn} {ts : List Turn} (made : t.Made ρ) (rest : Course ρ t.after ts) :
      Course ρ t.before (t :: ts)

variable {ρ : Rules} {m : UsageMonitor} {t : Turn} {ts : List Turn}

theorem Turn.Made.checked (hρ : ρ.Orderly) (h : t.Made ρ) :
    t.before.Checked t.now t.events t.result t.after := by
  obtain ⟨w, v, hrun, hevs⟩ := h
  obtain ⟨evs, hevs', hchecked⟩ := runs_check hρ hrun
  obtain rfl : t.events = evs := List.append_cancel_left (hevs.symm.trans hevs')
  exact hchecked

namespace Course

theorem made (h : Course ρ m ts) : ∀ t ∈ ts, t.Made ρ := by
  induction h with
  | nil => simp
  | cons made _ ih =>
    rintro t (_ | ⟨_, hmem⟩)
    · exact made
    · exact ih t hmem

/-- After a query, no check asks for anything before the interval has passed. -/
theorem after_query (hρ : ρ.Orderly) (h : Course ρ m ts) (time : Nat) (hm : 0 < m.intervalMs)
    (hfrom : m.QueriedFrom time) : ∀ t ∈ ts, t.events ≠ [] → time + m.intervalMs ≤ t.now := by
  induction h with
  | nil => simp
  | @cons t ts made rest ih =>
    have hchecked := made.checked hρ
    obtain ⟨hquiet, hfrom'⟩ := hchecked.after_query hm hfrom
    rw [hchecked.intervalMs_eq] at ih
    rintro u (_ | ⟨_, hmem⟩)
    · exact hquiet
    · exact ih hm hfrom' u hmem

/-- Of any two checks of which the first has queried, the later asks for something only an interval
after the first. -/
theorem quiet_after_query (hρ : ρ.Orderly) (h : Course ρ m ts) (hm : 0 < m.intervalMs) :
    ts.Pairwise fun t t' => t.Queries → t'.events ≠ [] → t.now + m.intervalMs ≤ t'.now := by
  induction h with
  | nil => exact .nil
  | @cons t ts made rest ih =>
    have hchecked := made.checked hρ
    have hlater := rest.after_query hρ t.now
    rw [hchecked.intervalMs_eq] at ih hlater
    refine .cons (fun t' hmem hqueries => ?_) (ih hm)
    exact hlater hm (hchecked.queriedFrom hqueries) t' hmem

end Course
end UsageMonitor

/-- On every schedule, queries that succeed and requests for the clearing of the log are at least an
interval apart, and a failed clearing is followed by no request within it. A check that is not due
does nothing, a query that failed leaves the next check due, and a check tells of a clearing exactly
if the log was cleared. -/
theorem usage_debounced {ρ : Rules} (hρ : ρ.Orderly) {m : UsageMonitor} (hm : 0 < m.intervalMs)
    {ts : List UsageMonitor.Turn} (h : UsageMonitor.Course ρ m ts) :
    (ts.Pairwise fun t t' => t.Queries → t'.Queries → t.now + m.intervalMs ≤ t'.now) ∧
    (ts.Pairwise fun t t' => t.AsksClear → t'.AsksClear → t.now + m.intervalMs ≤ t'.now) ∧
    (ts.Pairwise fun t t' => (∃ e, ⟨.ask (.ipmi .logClear), .error e⟩ ∈ t.events) →
      t'.now < t.now + m.intervalMs → t'.events = []) ∧
    ∀ t ∈ ts,
      (t.before.isDue t.now = false → t.events = [] ∧ t.result = .ok false ∧ t.after = t.before) ∧
      ((∃ e, ⟨.ask (.ipmi .logInfo), .error e⟩ ∈ t.events) →
        t.after = t.before ∧ ∀ later, t.now ≤ later → t.after.isDue later = true) ∧
      (t.result = .ok true ↔ ∃ ev ∈ t.events, ev.clears = true) := by
  have hquiet := h.quiet_after_query hρ hm
  have hchecked : ∀ t ∈ ts, t.before.Checked t.now t.events t.result t.after :=
    fun t ht => (h.made t ht).checked hρ
  have hqueries : ∀ t ∈ ts, t.AsksClear → t.Queries :=
    fun t ht hclear => (hchecked t ht).query_of_asksClear hclear
  refine ⟨?_, ?_, ?_, fun t ht => ⟨(hchecked t ht).of_not_due, ?_, (hchecked t ht).result_iff⟩⟩
  · refine hquiet.imp ?_
    rintro t t' hle hquery ⟨text, hmem⟩
    exact hle hquery (List.ne_nil_of_mem hmem)
  · refine hquiet.imp_of_mem ?_
    rintro t t' ht - hle hclear ⟨ev, hmem, -⟩
    exact hle (hqueries t ht hclear) (List.ne_nil_of_mem hmem)
  · refine hquiet.imp_of_mem ?_
    rintro t t' ht - hle ⟨e, hfailed⟩ hearly
    by_contra hevs
    have := hle (hqueries t ht ⟨_, hfailed, rfl⟩) hevs
    omega
  · rintro ⟨e, hfailed⟩
    have hsame := (hchecked t ht).eq_of_untold hfailed
    refine ⟨hsame, fun later hle => ?_⟩
    rw [hsame]
    exact UsageMonitor.isDue_mono ((hchecked t ht).isDue (List.ne_nil_of_mem hfailed)) hle

namespace Trial

/-- A controller with a full log that it cannot clear. -/
def uncleared : Replies := replies "95%" "" (.error (.commandFailed "sel" 1 ""))

def turn (now : Nat) (m : UsageMonitor) : UsageMonitor.Turn :=
  let run : StateM World (Except SourceError Bool × UsageMonitor) :=
    (acts (m.check now)).run uncleared.handle
  let ((result, after), v) := run (fresh "").world
  ⟨now, m, v.history, result, after⟩

theorem turn_made (now : Nat) (m : UsageMonitor) : (turn now m).Made .still := by
  have hstep : ∀ a w, Rules.still.Step w a (uncleared.handle a w).1 (uncleared.handle a w).2 :=
    fun a w => ⟨w, rfl, uncleared.allows w a, trivial, rfl⟩
  exact ⟨_, _, runs_run uncleared.handle id hstep (acts (m.check now)) (fresh "").world, rfl⟩

def checks : List Nat → UsageMonitor → List UsageMonitor.Turn
  | [], _ => []
  | now :: rest, m => turn now m :: checks rest (turn now m).after

theorem course_checks (times : List Nat) (m : UsageMonitor) :
    UsageMonitor.Course .still m (checks times m) := by
  induction times generalizing m with
  | nil => exact .nil m
  | cons now rest ih => exact .cons (turn_made now m) (ih _)

end Trial

/-- The clock goes back between the second check and the third, and stands still after that. -/
theorem usage_debounced_backwards :
    0 < Trial.monitor.intervalMs ∧
    (Trial.checks [0, 60000, 30000, 30000, 120000] Trial.monitor).map (·.events.length) =
      [2, 2, 0, 0, 2] ∧
    (Trial.checks [0, 60000, 30000, 30000, 120000] Trial.monitor).Pairwise fun t t' =>
      t.AsksClear → t'.AsksClear → t.now + Trial.monitor.intervalMs ≤ t'.now := by
  have hm : 0 < Trial.monitor.intervalMs := by decide
  exact ⟨hm, by decide +kernel, (usage_debounced Rules.still_still.orderly hm
    (Trial.course_checks [0, 60000, 30000, 30000, 120000] Trial.monitor)).2.1⟩

end HealthAgent
