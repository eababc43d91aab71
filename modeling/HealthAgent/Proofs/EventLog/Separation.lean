import HealthAgent.Proofs.EventLog.Backlog
import HealthAgent.Proofs.EventLog.Rotation
/-!
# The logs before and after a clearing

A cycle that clears the log sets the cursor to 0 and leaves the buffer as it is. With nothing left in the
buffer, the sensor begins again with the new log. If emptying the buffer has failed, it still holds lines
of the erased log; the next cycle takes them up with cursor 0, handles them again and sets the cursor
behind them, where the new log may have entries.

Results:
* `LogSensor.InStep.goesOn`: a sensor in step repeats nothing, and leaves nothing out of a listed log.
* `separated_unless_left`: so does a sensor that has cleared the log, if nothing was left in the buffer;
  else its next cycle handles what was left once more.
* `stuck_buffer_repeats_log`: a run where it does, and where entries of the new log are lost.
-/
namespace HealthAgent
open Program World

/-- Every cycle goes on in the log where the last one stopped, and one that lists the log goes on to its
end. -/
def LogSensor.GoesOn (s : LogSensor) (w : World) : Prop :=
  ∀ now o s' v evs, Runs Rules.still.Step (s.pollActs now) w (some (o, s')) v →
    v.history = w.history ++ evs →
      handled (sinceClear w.history) ++ handled evs <+: w.entries ∧
        (o = .proceed → evs.any Event.lists = true →
          handled (sinceClear w.history) ++ handled evs = w.entries)

/-- A sensor in step repeats nothing, and leaves nothing out of a log that it lists. -/
theorem LogSensor.InStep.goesOn {s₀ s : LogSensor} {w : World} (h : InStep s₀ s w)
    (hst : s.store.Apart) : s.GoesOn w := by
  intro now o s' v evs hrun hevs
  have hpolled := (ensures_polled Rules.still_still.orderly s hst now w _ v hrun).2 _ rfl
  obtain ⟨rest, hrest⟩ := h.handled
  have hdistinct : Distinct (w.settled ++ rest) := by
    rw [hrest]
    exact h.increasing.distinct
  have htodo : TailPlan.todo w.entries s.cursor = rest := by
    rw [← hrest, h.cursor]
    exact TailPlan.todo_of_append hdistinct
  change w.settled ++ HealthAgent.handled evs <+: w.entries ∧
    (_ → _ → w.settled ++ HealthAgent.handled evs = w.entries)
  constructor
  · obtain ⟨es, hpre, hes⟩ := hpolled.begun Rules.still_still hevs
    -- only a plan for the log itself has anything left to do
    have hnone : TailPlan.todo es s.cursor = [] →
        w.settled ++ HealthAgent.handled evs <+: w.entries := by
      intro hdone
      rw [hdone, List.prefix_nil] at hpre
      rw [hpre, List.append_nil]
      exact h.handled
    rcases hes with rfl | rfl | ⟨hsome, rfl⟩
    · exact hnone rfl
    · rw [htodo] at hpre
      rw [← hrest]
      exact (List.prefix_append_right_inj _).2 hpre
    · refine hnone ?_
      rw [h.left.resolve_left hsome, h.cursor]
      have hsettled := (h.increasing.of_prefix h.handled).distinct
      rw [← List.append_nil w.settled] at hsettled
      simpa using TailPlan.todo_of_append hsettled
  · intro ho hlists
    obtain ⟨hhandled, -⟩ := listed_cycle Rules.still_still hpolled ho hevs (List.any_eq_true.1 hlists)
    rw [hhandled, htodo, hrest]

/-- The log gets more entries and is only cleared with nothing of it left in the buffer, and the
controller has no terminal failure. -/
def Rules.steady (st : LogStore) : Rules where
  drifts := World.Grows
  admits w a r := (Rules.tidy st).admits w a r ∧
    ∀ e, (Event.mk a r).failure? = some e → e.isTerminal = false

namespace Rules

variable (st : LogStore)

theorem steady_orderly : (steady st).Orderly := fun _ _ h => h

theorem steady_tidy : (steady st).Tidy st := fun _ _ h => h.1 rfl

theorem steady_not_fatal : ∀ e, ¬ (steady st).Fatal e := not_fatal fun _ _ _ h => h.2

/-- Files are read; all else may be answered in any way. -/
def reading : Rules := .only Event.legible

theorem reading_still : reading.Still := only_still _

theorem reading_reads : reading.Reads := only_reads fun _ h => h

end Rules

/-! ## A cycle that clears the log -/

/-- After a clearing, the cursor is 0 and nothing has been handled. What is left in the buffer are entries
of the old log, which have been handled. -/
theorem LogSensor.Sound.cleared {s s' : LogSensor} {w v : World} {now : Nat} {o : Outcome}
    {evs : List Event} (h : s.Sound w)
    (hrun : Runs Rules.reading.Step (s.pollActs now) w (some (o, s')) v)
    (hevs : v.history = w.history ++ evs) (hclears : evs.any Event.clears = true) :
    s'.store = s.store ∧ s'.cursor = 0 ∧
      v.settled = [] ∧ v.alerted = [] ∧ Increasing v.entries ∧
      (LogEntry.parseLines (v.buffer s.store) = [] ∨
        LogEntry.parseLines (v.buffer s.store) <+: w.entries) ∧
      ∀ x ∈ LogEntry.parseLines (v.buffer s.store), x ∈ HealthAgent.handled v.history := by
  have hpolled := (ensures_polled Rules.reading_still.orderly s h.apart now w _ v hrun).2 _ rfl
  obtain ⟨u, t, cursor, unsaved, usage, rfl, hcycled, hstill, hchecks, hreset⟩ :=
    hpolled.of_clears hevs hclears
  obtain ⟨hsettled, halerted, hinc, hbuffer, -⟩ := hchecks.fresh hreset
  refine ⟨rfl, rfl, hsettled, halerted, hinc, ?_⟩
  cases hcycled with
  | idle r hsince hgrown hbuffer hunread => exact absurd Rules.reading_reads (hunread rfl)
  | @through l es as hsince halerts hgrown hsource hleft =>
    rw [hbuffer]
    rcases hleft with hnone | hsame
    · rw [hnone]
      exact ⟨.inl rfl, nofun⟩
    · rw [hsame]
      have hpre : es <+: w.entries := by
        rcases hsource.still (hstill Rules.reading_still) with ⟨-, -, rfl⟩ | ⟨-, -, rfl⟩
        · exact List.prefix_refl _
        · exact h.world.buffered
      refine ⟨.inr hpre, ?_⟩
      intro x hx
      obtain ⟨hhandled, -⟩ := hsince.closed (hchecks.closes.trans (.reset hreset)) hevs
      rw [hevs, handled_append, hhandled]
      rcases h.covers.mem_todo_or_settled h.world.increasing hpre hx with hmem | hmem
      · exact List.mem_append_right _ hmem
      · exact List.mem_append_left _ (handled_sinceClear_subset _ hmem)

/-- If a cycle has cleared the log and nothing was left in the buffer, the sensor goes on in the new log
from its beginning. If lines were left, the next cycle that reads them handles them again, and sets the
cursor to the last of their numbers. -/
theorem separated_unless_left {folder : String} {s₀ s : LogSensor} {w₀ w : World} {now : Nat}
    {o : Outcome} {evs : List Event}
    (hm : Machine.Reachable (.tidy (.inFolder folder)) (World.Reset (.inFolder folder)) folder
      ⟨some s₀, w₀⟩)
    (hpoll : Runs Rules.reading.Step (s₀.pollActs now) w₀ (some (o, s)) w)
    (hevs : w.history = w₀.history ++ evs) (hclears : evs.any Event.clears = true) :
    (LogEntry.parseLines (w.buffer (.inFolder folder)) = [] →
      ∀ s' w', Serves (.steady (.inFolder folder)) s w s' w' → s'.GoesOn w') ∧
    (LogEntry.parseLines (w.buffer (.inFolder folder)) ≠ [] →
      ∀ w' now' o' s' v evs', w.Grows w' →
        Runs Rules.answering.Step (s.pollActs now') w' (some (o', s')) v →
        v.history = w'.history ++ evs' →
          handled evs' = LogEntry.parseLines (w.buffer (.inFolder folder)) ∧
          s'.cursor = lastIndex 0 (handled evs') ∧
          ∀ x ∈ handled evs', x ∈ w₀.entries ∧ x ∈ handled w.history) := by
  obtain ⟨hstore₀, hsound⟩ := hm.tidy_sound.sensor s₀ rfl
  obtain ⟨hstore, hzero, hsettled, halerted, hinc, hold, hhandled⟩ :=
    hsound.cleared hpoll hevs hclears
  rw [hstore₀] at hold hhandled hstore
  have hst : s.store.Apart := by
    rw [hstore]
    exact LogStore.inFolder_apart folder
  constructor
  · intro hnone s' w' hserves
    rw [← hstore] at hnone hserves
    have hbegun : s.InStep s w := .begin ⟨_, _, _, rfl⟩ hzero hinc hsettled halerted hnone
    have hstep := hserves.inStep (Rules.steady_orderly _) (Rules.steady_not_fatal _)
      (Rules.steady_tidy _) hst hbegun
    have hst' : s'.store.Apart := by
      obtain ⟨c, unsaved, usage, rfl⟩ := hstep.same
      exact hst
    exact hstep.goesOn hst'
  · intro hsome w' now' o' s' v evs' hgrown hrun hevs'
    obtain ⟨es, htodo, -, hcursor, hlines, -⟩ := LogSensor.answered hst hrun hevs'
    rw [(hgrown.moves s.store).buffer, hstore] at hlines
    rw [hzero] at htodo hcursor
    have hpre := hold.resolve_left hsome
    rcases hlines with ⟨hnone, -⟩ | ⟨-, rfl⟩
    · rw [hnone] at hsome
      exact absurd rfl hsome
    · rw [TailPlan.todo_zero (hsound.world.increasing.of_prefix hpre).distinct] at htodo
      refine ⟨htodo, hcursor, ?_⟩
      rw [htodo]
      exact fun x hx => ⟨hpre.subset hx, hhandled x hx⟩

namespace Trial

/-- A controller whose log is too full, with files that nobody can empty. -/
def fullStuck : Replies := { full with refuses := fun _ bytes => bytes.size = 0 }

/-- The poised machine after the cycle that clears its log, the buffer being left. -/
def cleared : Machine := poised.cycle fullStuck 100 0

/-- The same machine after a cycle that takes up the buffer. -/
def repeated : Machine := cleared.cycle keeping 100 0

def renewed : Machine := repeated.withLog (line "1" "new" ++ line "2" "new")

theorem poised_sensor {s : LogSensor} (h : poised.sensor = some s) :
    Machine.Reachable (.tidy (.inFolder "state")) (World.Reset (.inFolder "state")) "state"
      ⟨some s, poised.world⟩ := by
  rw [← h]
  exact poised_reachable

end Trial

/-- A cycle that has emptied its buffer before it cleared the log. -/
theorem separated_when_emptied : ∃ s₀ s w evs,
    Machine.Reachable (.tidy (.inFolder "state")) (World.Reset (.inFolder "state")) "state"
      ⟨some s₀, Trial.poised.world⟩ ∧
    Runs Rules.reading.Step (s₀.pollActs 0) Trial.poised.world (some (.proceed, s)) w ∧
    w.history = Trial.poised.world.history ++ evs ∧ evs.any Event.clears = true ∧
    ∀ s' w', Serves (.steady (.inFolder "state")) s w s' w' → s'.GoesOn w' := by
  obtain ⟨s₀, s, hs₀, -, hrun, hevs⟩ := Machine.exists_completed_only
    (show Trial.poised.outcome Trial.full 100 0 = some .proceed by decide +kernel)
    (show (Trial.poised.eventsTo (Trial.poised.cycle Trial.full 100 0)).all Event.legible = true by
      decide +kernel)
  have hreach := Trial.poised_sensor hs₀
  have hclears : (Trial.poised.eventsTo (Trial.poised.cycle Trial.full 100 0)).any Event.clears =
      true := by decide +kernel
  refine ⟨s₀, s, _, _, hreach, hrun, hevs, hclears, ?_⟩
  exact (separated_unless_left hreach hrun hevs hclears).1 (by decide +kernel)

/-- If the buffer cannot be emptied when the log is cleared, the next cycle handles an entry of the
erased log again, and the one after that lists the new log and leaves out an entry of it. -/
theorem stuck_buffer_repeats_log : ∃ s₀ s₁ s₂ s₃ t evs₁ evs₂ evs₃,
    Machine.Reachable (.tidy (.inFolder "state")) (World.Reset (.inFolder "state")) "state"
      ⟨some s₀, Trial.poised.world⟩ ∧
    Runs Rules.reading.Step (s₀.pollActs 0) Trial.poised.world (some (.proceed, s₁))
      Trial.cleared.world ∧
    Trial.cleared.world.history = Trial.poised.world.history ++ evs₁ ∧
    evs₁.any Event.clears = true ∧
    Runs Rules.answering.Step (s₁.pollActs 0) Trial.cleared.world (some (.proceed, s₂))
      Trial.repeated.world ∧
    Trial.repeated.world.history = Trial.cleared.world.history ++ evs₂ ∧
    (∃ x ∈ handled evs₂, x ∈ handled Trial.cleared.world.history) ∧
    Runs Rules.answering.Step (s₂.pollActs 0) Trial.renewed.world (some (.proceed, s₃)) t ∧
    t.history = Trial.renewed.world.history ++ evs₃ ∧ evs₃.any Event.lists = true ∧
    ∃ x ∈ Trial.renewed.world.entries, x ∉ handled t.history := by
  obtain ⟨s₀, s₁, hs₀, hs₁, hrun₁, hevs₁⟩ := Machine.exists_completed_only
    (show Trial.poised.outcome Trial.fullStuck 100 0 = some .proceed by decide +kernel)
    (show (Trial.poised.eventsTo Trial.cleared).all Event.legible = true by decide +kernel)
  obtain ⟨s₁', s₂, hs₁', hs₂, hrun₂, hevs₂⟩ := Machine.exists_completed_only
    (show Trial.cleared.outcome Trial.keeping 100 0 = some .proceed by decide +kernel)
    (show (Trial.cleared.eventsTo Trial.repeated).all Event.served = true by decide +kernel)
  obtain ⟨s₂', s₃, hs₂', -, hrun₃, hevs₃⟩ := Machine.exists_completed_only
    (show Trial.renewed.outcome Trial.keeping 100 0 = some .proceed by decide +kernel)
    (show (Trial.renewed.eventsTo (Trial.renewed.cycle Trial.keeping 100 0)).all Event.served = true by
      decide +kernel)
  obtain rfl : s₁ = s₁' := Option.some.inj (hs₁.symm.trans hs₁')
  obtain rfl : s₂ = s₂' := Option.some.inj (hs₂.symm.trans hs₂')
  exact ⟨s₀, s₁, s₂, s₃, _, _, _, _, Trial.poised_sensor hs₀, hrun₁, hevs₁, by decide +kernel, hrun₂,
    hevs₂, by decide +kernel, hrun₃, hevs₃, by decide +kernel, by decide +kernel⟩

end HealthAgent
