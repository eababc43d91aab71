import HealthAgent.Proofs.EventLog.Completed
import HealthAgent.Proofs.EventLog.Replies
/-!
# Entries are handled once and in order

A sensor that starts with cursor 0 and an empty buffer, under a log that nobody clears and a
controller without terminal failures, handles the entries of the log one by one from the first on,
whatever else fails. The cursor in memory is always the number of the last handled entry, and a buffer
that is left over holds exactly the entries that have been handled. A clearing of the log with nothing
left in the buffer lets the sensor begin again.

Results:
* `InStep.cycled`, `InStep.polled`: a cycle goes on where the last one stopped.
* `Serves.inStep`: so does a process.
* `handled_in_order`: after any number of cycles, the handled entries are a beginning of the log, and
  the alerts tell of them one by one.
-/
namespace HealthAgent
open Program World

/-- The sensor `s` of a process that began as `s₀` has handled a beginning of the log, since the log was
last cleared. -/
structure LogSensor.InStep (s₀ s : LogSensor) (w : World) : Prop where
  same : ∃ cursor unsaved usage, s = { s₀ with cursor, cursorUnsaved := unsaved, usage }
  increasing : Increasing w.entries
  handled : w.settled <+: w.entries
  cursor : s.cursor = lastIndex 0 w.settled
  left : w.buffer s.store = [] ∨ LogEntry.parseLines (w.buffer s.store) = w.settled
  alerts : s₀.AlertsFor w.settled w.alerted

namespace LogSensor.InStep

variable {ρ : Rules} {s₀ s : LogSensor} {w v : World}

/-- With nothing handled and nothing left in the buffer, cursor 0 is in step. -/
theorem begin (hsame : ∃ cursor unsaved usage, s = { s₀ with cursor, cursorUnsaved := unsaved, usage })
    (hcursor : s.cursor = 0) (hinc : Increasing w.entries) (hsettled : w.settled = [])
    (halerted : w.alerted = []) (hleft : LogEntry.parseLines (w.buffer s.store) = []) :
    InStep s₀ s w := by
  refine ⟨hsame, hinc, ?_, ?_, ?_, ?_⟩
  · rw [hsettled]
    exact List.nil_prefix
  · rw [hsettled, hcursor]
    rfl
  · rw [hsettled]
    exact .inr hleft
  · rw [hsettled, halerted]
    exact .nil

theorem rests (h : InStep s₀ s w) (hc : w.Closes false v) (hgrown : w.Extends v)
    (hbuffer : v.buffer s.store = w.buffer s.store) : InStep s₀ s v := by
  refine ⟨h.same, hgrown.increasing h.increasing, ?_, ?_, ?_, ?_⟩
  · rw [hc.settled]
    exact h.handled.trans hgrown.entries
  · rw [hc.settled]
    exact h.cursor
  · rw [hc.settled, hbuffer]
    exact h.left
  · rw [hc.settled, hc.alerted]
    exact h.alerts

/-- A cycle goes on behind the last handled entry. -/
theorem cycled (h : InStep s₀ s w) {r : Except SourceError Unit} {cursor : UInt64}
    (hc : w.Cycled ρ s v r cursor) (hfatal : ∀ e, ¬ ρ.Fatal e) (unsaved : Bool) :
    InStep s₀ { s with cursor, cursorUnsaved := unsaved } v := by
  obtain ⟨c, u, usage, rfl⟩ := h.same
  cases hc with
  | idle r hsince hgrown hbuffer =>
    have hrest := h.rests hsince.closes hgrown hbuffer
    exact ⟨⟨_, _, _, rfl⟩, hrest.increasing, hrest.handled, hrest.cursor, hrest.left, hrest.alerts⟩
  | fatal e he => exact absurd he (hfatal e)
  | @through l es as hsince halerts hgrown hsource hleft =>
    have hinc := hgrown.increasing h.increasing
    -- the entries that the plan is made for begin with the handled ones
    obtain ⟨rest, hes, hpre⟩ : ∃ rest, es = w.settled ++ rest ∧ es <+: v.entries := by
      rcases hsource with ⟨-, -, hfrom, hto⟩ | ⟨-, hleft, hold⟩
      · obtain ⟨rest, hrest⟩ := h.handled.trans hfrom
        exact ⟨rest, hrest.symm, hto⟩
      · rcases h.left with hnone | hsame
        · exact absurd hnone hleft
        · rw [hold, hsame]
          exact ⟨[], by simp, h.handled.trans hgrown.entries⟩
    have hdistinct : Distinct (w.settled ++ rest) := by
      rw [← hes]
      exact (hinc.of_prefix hpre).distinct
    have hcursor : c = lastIndex 0 w.settled := h.cursor
    have htodo : TailPlan.todo es c = rest := by
      rw [hes, hcursor]
      exact TailPlan.todo_of_append hdistinct
    have hnext : (TailPlan.make es c).nextCursor.getD c = lastIndex 0 es := by
      rw [TailPlan.nextCursor_getD, htodo, hes, lastIndex_append, ← hcursor]
    simp only [htodo] at hsince halerts
    have hnow : v.settled = es := by
      rw [hsince.settled, hes]
    refine ⟨⟨_, _, _, rfl⟩, hinc, ?_, ?_, ?_, ?_⟩
    · rw [hnow]
      exact hpre
    · rw [hnow]
      exact hnext
    · rw [hnow]
      exact hleft
    · rw [hsince.settled, hsince.alerted]
      exact h.alerts.append halerts

/-- A completed cycle goes on behind the last handled entry, or clears the log. -/
theorem polled (h : InStep s₀ s w) {o : Outcome} {s' : LogSensor} (hp : w.Polled ρ s v o s')
    (hfatal : ∀ e, ¬ ρ.Fatal e) (htidy : ρ.Tidy s.store) : InStep s₀ s' v := by
  obtain ⟨c₀, unsaved₀, usage₀, rfl⟩ := h.same
  cases hp with
  | failed hc => exact h.cycled hc hfatal _
  | @kept _ u cursor unsaved usage hc still checks =>
    have hstep := (h.cycled hc hfatal unsaved).rests checks.closes checks.extends checks.buffer
    exact ⟨⟨_, _, _, rfl⟩, hstep.increasing, hstep.handled, hstep.cursor, hstep.left, hstep.alerts⟩
  | @cleared _ u t cursor unsaved usage hc still checks reset =>
    obtain ⟨hsettled, halerted, hinc, -, hleft⟩ := checks.fresh reset
    exact begin ⟨_, _, _, rfl⟩ rfl hinc hsettled halerted (hleft htidy)

end LogSensor.InStep

/-! ## One process -/

/-- The error that the controller answers with, if the event tells of one. -/
def Event.failure? : Event → Option SourceError
  | ⟨.ask (.ipmi _), .error e⟩ => some e
  | _ => none

/-- The log gets more entries and is not cleared, and the controller has no terminal failure. All
else may be answered in any way. -/
def Rules.lenient : Rules where
  drifts := World.Grows
  admits _ a r := (Event.mk a r).clears = false ∧
    ∀ e, (Event.mk a r).failure? = some e → e.isTerminal = false

theorem Rules.lenient_orderly : Rules.lenient.Orderly := fun _ _ h => h

/-- A process whose sensor runs one cycle after the other, in a world that may change in between. -/
inductive Serves (ρ : Rules) (s₀ : LogSensor) (w₀ : World) : LogSensor → World → Prop
  | init : Serves ρ s₀ w₀ s₀ w₀
  | drift {s : LogSensor} {w v : World} (before : Serves ρ s₀ w₀ s w) (drifts : ρ.drifts w v) :
      Serves ρ s₀ w₀ s v
  | poll {s s' : LogSensor} {w v : World} (before : Serves ρ s₀ w₀ s w) (now : Nat) {o : Outcome}
      (runs : Runs ρ.Step (s.pollActs now) w (some (o, s')) v) : Serves ρ s₀ w₀ s' v

section
variable {ρ : Rules} (hρ : ρ.Orderly)
include hρ

/-- A process stays in step while there is no terminal failure and each clearing is one with nothing left
in the buffer. -/
theorem Serves.inStep {s₀ s : LogSensor} {w₀ w : World} (hrun : Serves ρ s₀ w₀ s w)
    (hfatal : ∀ e, ¬ ρ.Fatal e) (htidy : ρ.Tidy s₀.store) (hst : s₀.store.Apart)
    (h₀ : s₀.InStep s₀ w₀) : s₀.InStep s w := by
  induction hrun with
  | init => exact h₀
  | @drift s w v before hdrift ih =>
    have hm := (hρ w v hdrift).moves s.store
    refine ih.rests ⟨[], ?_, rfl, rfl, rfl, rfl⟩ hm.toExtends hm.buffer
    rw [hm.history]
  | @poll s s' w v before now o runs ih =>
    have hstore : s.store = s₀.store := by
      obtain ⟨c, unsaved, usage, heq⟩ := ih.same
      rw [heq]
    rw [← hstore] at hst htidy
    exact ih.polled ((ensures_polled hρ s hst now w _ v runs).2 _ rfl) hfatal htidy

/-- Unless a run clears the log, the log stays uncleared. -/
theorem Serves.unclear {s₀ s : LogSensor} {w₀ w : World} (hrun : Serves ρ s₀ w₀ s w)
    (hclear : ∀ w a r, ρ.admits w a r → (Event.mk a r).clears = false)
    (h₀ : ∀ ev ∈ w₀.history, ev.clears = false) : ∀ ev ∈ w.history, ev.clears = false := by
  induction hrun with
  | init => exact h₀
  | @drift s w v before hdrift ih =>
    rw [(hρ w v hdrift).history]
    exact ih
  | poll before now runs ih => exact runs.keeps (fun _ _ _ _ hw hs => hs.unclear hρ hclear hw) ih

end

theorem Rules.not_fatal {ρ : Rules} (h : ∀ w a r, ρ.admits w a r →
    ∀ e, (Event.mk a r).failure? = some e → e.isTerminal = false) (e : SourceError) :
    ¬ ρ.Fatal e := by
  rintro ⟨hterminal, w, r, hadmits⟩
  rw [h _ _ _ hadmits e rfl] at hterminal
  cases hterminal

theorem Rules.lenient_not_fatal : ∀ e, ¬ Rules.lenient.Fatal e := not_fatal fun _ _ _ h => h.2

theorem Rules.lenient_tidy (st : LogStore) : Rules.lenient.Tidy st := by
  intro u text hadmits
  cases hadmits.1

namespace Trial

theorem keeping_failure (w : World) (a : Act) (e : SourceError)
    (h : (Event.mk a (keeping.answer w a)).failure? = some e) : e = .commandFailed "sel" 1 "" := by
  cases a with
  | ask r =>
    cases r with
    | ipmi r =>
      cases r with
      | logClear =>
        cases h
        rfl
      | sensorsOfType deviceType =>
        simp only [Replies.answer, keeping, replies] at h
        split at h <;> cases h
        rfl
      | _ => cases h
    | _ => cases h
  | _ => cases h

theorem keeping_lenient : keeping.Obey .lenient := by
  intro w a
  refine ⟨Grows.refl w, keeping_clears w a, ?_⟩
  intro e he
  rw [keeping_failure w a e he]
  rfl

def sensor : LogSensor where
  store := .inFolder "state"
  cursor := 0
  cursorUnsaved := false
  numbers := SensorNumbers.empty.insert .fan "30" "Fan 1"
  usage := .ofConfig config
  context := context
  zone := .utc

/-- The sensor with a log of an entry that raises an alert, a line that is none, and an entry that
raises no alert. -/
def ready : Machine :=
  ⟨some sensor, (fresh (line "1" "Lower Critical going low" ++ "noise\n" ++ line "2" "")).world⟩

end Trial

/-- After any number of cycles, the handled entries are a beginning of the log, none of them twice, and
the alerts tell of them one by one. -/
theorem handled_in_order {folder : String} {s₀ s : LogSensor} {w₀ w : World}
    (hstore : s₀.store = .inFolder folder) (hcursor : s₀.cursor = 0)
    (hbuffer : w₀.buffer s₀.store = []) (hhistory : w₀.history = [])
    (hincreasing : Increasing w₀.entries) (hrun : Serves .lenient s₀ w₀ s w) :
    handled w.history <+: w.entries ∧ (handled w.history).Nodup ∧
      s₀.AlertsFor (handled w.history) (delivered w.history) := by
  have hst : s₀.store.Apart := by
    rw [hstore]
    exact LogStore.inFolder_apart folder
  have hsettled : w₀.settled = [] ∧ w₀.alerted = [] := by
    rw [World.settled, World.alerted, hhistory]
    exact ⟨rfl, rfl⟩
  have hleft : LogEntry.parseLines (w₀.buffer s₀.store) = [] := by
    rw [hbuffer]
    rfl
  have h₀ : s₀.InStep s₀ w₀ :=
    .begin ⟨_, _, _, rfl⟩ hcursor hincreasing hsettled.1 hsettled.2 hleft
  have h := hrun.inStep Rules.lenient_orderly Rules.lenient_not_fatal (Rules.lenient_tidy _) hst h₀
  -- nothing has cleared the log, so all that was handled was handled since
  have hclear := hrun.unclear Rules.lenient_orderly (fun _ _ _ h => h.1) (by simp [hhistory])
  have hall : sinceClear w.history = w.history := by
    simpa [sinceClear] using sinceClear_append [] w.history hclear
  have hhandled : w.settled = handled w.history := congrArg handled hall
  have halerted : w.alerted = delivered w.history := congrArg delivered hall
  rw [← hhandled, ← halerted]
  refine ⟨h.handled, ?_, h.alerts⟩
  exact (h.increasing.of_prefix h.handled).1.imp fun hlt heq => by
    rw [heq] at hlt
    exact UInt64.lt_irrefl _ hlt

theorem handled_in_order_served : ∃ s w, Serves .lenient Trial.sensor Trial.ready.world s w ∧
    handled w.history <+: w.entries ∧ (handled w.history).Nodup ∧
      Trial.sensor.AlertsFor (handled w.history) (delivered w.history) ∧
      (handled w.history).map (·.index) = [1, 2] ∧ (delivered w.history).length = 1 := by
  have hdone : Trial.ready.outcome Trial.keeping 100 0 = some .proceed := by decide +kernel
  obtain ⟨s₀, s, hs₀, -, hrun, -⟩ :=
    Machine.exists_completed Rules.lenient_orderly Trial.keeping_lenient hdone
  obtain rfl : Trial.sensor = s₀ := Option.some.inj hs₀
  have hinc : Increasing Trial.ready.world.entries := by decide +kernel
  have hserves : Serves .lenient Trial.sensor Trial.ready.world s _ := .poll .init 0 hrun
  obtain ⟨hpre, hnodup, halerts⟩ := handled_in_order rfl rfl rfl rfl hinc hserves
  exact ⟨s, _, hserves, hpre, hnodup, halerts, by decide +kernel, by decide +kernel⟩

end HealthAgent
