import HealthAgent.Proofs.EventLog.Clearing
import HealthAgent.Proofs.EventLog.InOrder
import HealthAgent.Proofs.EventLog.Upkeep
/-!
# A buffer that cannot be emptied

A cycle handles what is left in the buffer before it lists the log again. While files can be read and
the controller answers, a cycle settles the entries of its lines, whatever writing fails. If the buffer
cannot be emptied, its lines are those of the next cycle as well, and what has come to the log in the
meantime waits until it can.

Results:
* `LogSensor.answered`: a cycle handles what its plan for its lines leaves to do.
* `LogSensor.Sound.settles`: it settles the entries of its lines and nothing else.
* `handled_after_two_cycles_iff`: two cycles have handled the log exactly if the buffer was empty before
  one of them, or held all that was not handled.
* `stuck_buffer_hides_entry`: two cycles that leave an entry out.
-/
namespace HealthAgent
open Program World

/-- Whether an event is neither a request that the controller refuses, nor one to clear the log. -/
def Event.answered : Event → Bool
  | ⟨.ask (.ipmi .logClear), _⟩ => false
  | ⟨.ask (.ipmi _), .error _⟩ => false
  | _ => true

/-- Whether an event is a success, unless a file is replaced, and no clearing of the log. -/
def Event.served (ev : Event) : Bool := ev.legible && ev.answered

theorem Event.served_unclear {ev : Event} (h : ev.served = true) : ev.clears = false := by
  unfold clears
  split
  · cases h
  · rfl

/-- The log stays as it is and is not cleared, files are read, and the controller answers. Replacing a
file may fail. -/
def Rules.answering : Rules := .only Event.served

namespace Rules

theorem answering_still : answering.Still := only_still _

theorem answering_reads : answering.Reads :=
  only_reads fun _ h => (Bool.and_eq_true _ _ ▸ h).1

theorem answering_reports : answering.Reports := by
  intro w e h
  cases h

theorem answering_not_fatal (e : SourceError) : ¬ answering.Fatal e := by
  rintro ⟨-, w, r, h⟩
  cases r <;> cases h

theorem answering_tidy (st : LogStore) : answering.Tidy st := by
  intro w text h
  cases h

theorem answering_entries {α : Type} {p : ActProgram α} {w v : World} {o : Option α}
    (h : Runs answering.Step p w o v) : v.entries = w.entries := by
  refine h.keeps (I := fun v => v.entries = w.entries) ?_ rfl
  intro u a r u' hu hstep
  obtain ⟨t, rfl, -, hadmits, rfl⟩ := hstep
  rw [World.after_entries _ _ _ (Event.served_unclear hadmits), hu]

end Rules

/-- A cycle handles what its plan for its lines leaves to do. The lines are what is left in the buffer,
or else the log, and they stay in the buffer unless it is emptied. -/
theorem LogSensor.answered {s s' : LogSensor} {w v : World} {now : Nat} {o : Outcome}
    {evs : List Event} (hst : s.store.Apart)
    (hrun : Runs Rules.answering.Step (s.pollActs now) w (some (o, s')) v)
    (hevs : v.history = w.history ++ evs) :
    ∃ es, handled evs = TailPlan.todo es s.cursor ∧ evs.any Event.clears = false ∧
      s'.cursor = lastIndex s.cursor (handled evs) ∧
      (w.buffer s.store = [] ∧ es = w.entries ∨
        w.buffer s.store ≠ [] ∧ es = LogEntry.parseLines (w.buffer s.store)) ∧
      (v.buffer s.store = [] ∨ LogEntry.parseLines (v.buffer s.store) = es) := by
  have hpolled :=
    (ensures_polled Rules.answering_still.orderly s hst now w _ v hrun).2 _ rfl
  cases hpolled with
  | failed hcycled =>
    cases hcycled with
    | idle r hsince hgrown hbuffer hunread hunlisted =>
      exact absurd Rules.answering_reports (hunlisted nofun)
    | fatal _ hfatal => exact absurd hfatal (Rules.answering_not_fatal _)
  | cleared hcycled hstill hchecks hreset =>
    cases hchecks with
    | clears hp hadmits hclears => cases hadmits
  | @kept _ u cursor unsaved usage hcycled hstill hchecks =>
    cases hcycled with
    | idle r hsince hgrown hbuffer hunread => exact absurd Rules.answering_reads (hunread rfl)
    | @through l es as hsince halerts hgrown hsource hleft =>
      obtain ⟨hhandled, -, hclears⟩ := hsince.closed hchecks.closes hevs
      refine ⟨es, hhandled, hclears, ?_, ?_, ?_⟩
      · rw [hhandled]
        exact TailPlan.nextCursor_getD es s.cursor
      · exact (hsource.still (hstill Rules.answering_still)).imp And.right And.right
      · rw [hchecks.buffer]
        exact hleft

/-- A cycle settles the entries of its lines and nothing else. -/
theorem LogSensor.Sound.settles {s s' : LogSensor} {w v : World} {now : Nat} {o : Outcome}
    (h : s.Sound w) (hrun : Runs Rules.answering.Step (s.pollActs now) w (some (o, s')) v) :
    ∃ es, (∀ x, x ∈ v.settled ↔ x ∈ w.settled ∨ x ∈ es) ∧
      (w.buffer s.store = [] ∧ es = w.entries ∨
        w.buffer s.store ≠ [] ∧ es = LogEntry.parseLines (w.buffer s.store)) ∧
      (v.buffer s.store = [] ∨ LogEntry.parseLines (v.buffer s.store) = es) := by
  obtain ⟨evs, hevs⟩ := runs_history Rules.answering_still.orderly hrun
  obtain ⟨es, hhandled, hclears, -, hlines, hleft⟩ := LogSensor.answered h.apart hrun hevs.symm
  have hpre : es <+: w.entries := by
    rcases hlines with ⟨-, rfl⟩ | ⟨-, rfl⟩
    · exact List.prefix_refl _
    · exact h.world.buffered
  have hsettled : v.settled = w.settled ++ TailPlan.todo es s.cursor := by
    unfold World.settled
    rw [← hevs, sinceClear_append _ _ (by simpa using hclears), handled_append, hhandled]
  refine ⟨es, fun x => ?_, hlines, hleft⟩
  rw [hsettled, List.mem_append]
  constructor
  · exact Or.imp_right fun hmem => (TailPlan.todo_suffix es s.cursor).subset hmem
  · rintro (hmem | hmem)
    · exact .inl hmem
    · exact (h.covers.mem_todo_or_settled h.world.increasing hpre hmem).symm

/-- Two cycles over one log have handled its entries exactly if the buffer was empty before one of them,
or held all that was not handled before. -/
theorem handled_after_two_cycles_iff {folder : String} {s s₁ s₂ : LogSensor} {w v u : World}
    {now now' : Nat} {o o' : Outcome}
    (hm : Machine.Reachable (.tidy (.inFolder folder)) (World.Reset (.inFolder folder)) folder
      ⟨some s, w⟩)
    (hfirst : Runs Rules.answering.Step (s.pollActs now) w (some (o, s₁)) v)
    (hsecond : Runs Rules.answering.Step (s₁.pollActs now') v (some (o', s₂)) u) :
    (∀ x ∈ w.entries, x ∈ handled (sinceClear u.history)) ↔
      w.buffer (.inFolder folder) = [] ∨ v.buffer (.inFolder folder) = [] ∨
        ∀ x ∈ w.entries, x ∈ handled (sinceClear w.history) ∨
          x ∈ LogEntry.parseLines (w.buffer (.inFolder folder)) := by
  obtain ⟨hstore, hsound⟩ := hm.tidy_sound.sensor s rfl
  have hρ := Rules.answering_still.orderly
  have htidy := Rules.answering_tidy s.store
  obtain ⟨hsound₁, hstore₁⟩ := (ensures_pollActs hρ s now w hsound htidy _ _ hfirst).2 _ rfl
  obtain ⟨es, hsettled, hlines, hleft⟩ := hsound.settles hfirst
  obtain ⟨es', hsettled', hlines', -⟩ := hsound₁.settles hsecond
  simp only at hstore hstore₁
  rw [hstore₁, hstore] at hlines'
  rw [hstore] at hlines hleft
  rw [Rules.answering_entries hfirst] at hlines'
  -- entries are settled after the two cycles if they were before, or are in the lines of one of them
  have hall : ∀ x, x ∈ handled (sinceClear u.history) ↔ (x ∈ w.settled ∨ x ∈ es) ∨ x ∈ es' :=
    fun x => (hsettled' x).trans (or_congr_left (hsettled x))
  simp only [hall]
  rcases hlines with ⟨hnone, rfl⟩ | ⟨hsome, rfl⟩
  · exact ⟨fun _ => .inl hnone, fun _ x hx => .inl (.inr hx)⟩
  · rcases hlines' with ⟨hnone', rfl⟩ | ⟨hsome', rfl⟩
    · exact ⟨fun _ => .inr (.inl hnone'), fun _ x hx => .inr hx⟩
    · rw [hleft.resolve_left hsome']
      simp only [hsome, hsome', false_or, or_self_right, World.settled]

namespace Trial

/-- A controller that keeps its log, and files that nobody can empty. -/
def stuck : Replies := { keeping with refuses := fun _ bytes => bytes.size = 0 }

/-- A machine that has handled an entry and could not empty its buffer. -/
def jammed : Machine :=
  ((fresh (line "1" "")).launch keeping 100 "state" config context .utc).cycle stuck 100 0

/-- The same machine with a second entry in the log. -/
def clogged : Machine := jammed.withLog (line "1" "" ++ line "2" "")

/-- The controller answers in two cycles of the clogged machine, with files as in `R`. -/
def Answers (R : Replies) : Prop :=
  (clogged.outcome R 100 0 = some .proceed ∧
    (clogged.eventsTo (clogged.cycle R 100 0)).all Event.served = true) ∧
  (clogged.cycle R 100 0).outcome R 100 0 = some .proceed ∧
    ((clogged.cycle R 100 0).eventsTo ((clogged.cycle R 100 0).cycle R 100 0)).all Event.served = true

instance (R : Replies) : Decidable (Answers R) := inferInstanceAs (Decidable (_ ∧ _))

theorem clogged_reachable : Machine.Reachable (.tidy (.inFolder "state"))
    (World.Reset (.inFolder "state")) "state" clogged := by
  have hinc : Increasing (LogEntry.parseLines (line "1" "").writtenLines) := by decide +kernel
  have hkeeping := keeping_tidy (.inFolder "state")
  have hstuck : stuck.Obey (.tidy (.inFolder "state")) := by
    refine fun w a => ⟨Grows.refl w, fun h => ?_⟩
    rw [Replies.answer_clears (fun _ h => by cases h)] at h
    cases h
  have hreach : Machine.Reachable (.tidy (.inFolder "state")) (World.Reset (.inFolder "state"))
      "state" jammed :=
    ((fresh_reachable hinc _ _ "state").launch hkeeping (.inl rfl) config context .utc).cycle hstuck 0
  refine hreach.step (.drift ⟨⟨?_, ?_⟩, rfl, rfl⟩)
  · decide +kernel
  · intro _
    decide +kernel

/-- Two cycles of the clogged machine in which the controller answers. -/
theorem Answers.runs {R : Replies} (h : Answers R) : ∃ s s₁ s₂, clogged.sensor = some s ∧
    Runs Rules.answering.Step (s.pollActs 0) clogged.world (some (.proceed, s₁))
      (clogged.cycle R 100 0).world ∧
    Runs Rules.answering.Step (s₁.pollActs 0) (clogged.cycle R 100 0).world (some (.proceed, s₂))
      ((clogged.cycle R 100 0).cycle R 100 0).world := by
  obtain ⟨⟨hdone, hserved⟩, hdone', hserved'⟩ := h
  obtain ⟨s, s₁, hs, hs₁, hrun, -⟩ := Machine.exists_completed_only hdone hserved
  obtain ⟨s₁', s₂, hs₁', -, hrun', -⟩ := Machine.exists_completed_only hdone' hserved'
  obtain rfl : s₁ = s₁' := Option.some.inj (hs₁.symm.trans hs₁')
  exact ⟨s, s₁, s₂, hs, hrun, hrun'⟩

end Trial

/-- Once the buffer can be emptied, the entry behind it is handled in the second cycle. -/
theorem handled_after_two_cycles_clogged : ∃ s s₁ s₂ v u,
    Machine.Reachable (.tidy (.inFolder "state")) (World.Reset (.inFolder "state")) "state"
      ⟨some s, Trial.clogged.world⟩ ∧
    Runs Rules.answering.Step (s.pollActs 0) Trial.clogged.world (some (.proceed, s₁)) v ∧
    Runs Rules.answering.Step (s₁.pollActs 0) v (some (.proceed, s₂)) u ∧
    Trial.clogged.world.buffer (.inFolder "state") ≠ [] ∧
    ∀ x ∈ Trial.clogged.world.entries, x ∈ handled (sinceClear u.history) := by
  have hanswers : Trial.Answers Trial.keeping := by decide +kernel
  obtain ⟨s, s₁, s₂, hs, hfirst, hsecond⟩ := hanswers.runs
  have hreach := Trial.clogged_reachable
  rw [show Trial.clogged = ⟨some s, Trial.clogged.world⟩ by rw [← hs]] at hreach
  refine ⟨s, s₁, s₂, _, _, hreach, hfirst, hsecond, by decide +kernel, ?_⟩
  exact (handled_after_two_cycles_iff hreach hfirst hsecond).2 (.inr (.inl (by decide +kernel)))

/-- If the buffer cannot be emptied, two cycles over a log leave out the entry behind it, with the
cursor's entry in the log. -/
theorem stuck_buffer_hides_entry : ∃ s s₁ s₂ v u,
    Machine.Reachable (.tidy (.inFolder "state")) (World.Reset (.inFolder "state")) "state"
      ⟨some s, Trial.clogged.world⟩ ∧
    Runs Rules.answering.Step (s.pollActs 0) Trial.clogged.world (some (.proceed, s₁)) v ∧
    Runs Rules.answering.Step (s₁.pollActs 0) v (some (.proceed, s₂)) u ∧
    Distinct Trial.clogged.world.entries ∧
    (∃ e ∈ Trial.clogged.world.entries, e.index = s.cursor) ∧
    ∃ x ∈ u.entries, x ∉ handled u.history := by
  have hanswers : Trial.Answers Trial.stuck := by decide +kernel
  obtain ⟨s, s₁, s₂, hs, hfirst, hsecond⟩ := hanswers.runs
  have hreach := Trial.clogged_reachable
  rw [show Trial.clogged = ⟨some s, Trial.clogged.world⟩ by rw [← hs]] at hreach
  have hcursor : Trial.clogged.sensor.map (·.cursor) = some 1 := by decide +kernel
  rw [hs] at hcursor
  have hone : s.cursor = 1 := Option.some.inj hcursor
  refine ⟨s, s₁, s₂, _, _, hreach, hfirst, hsecond, by decide +kernel, ?_, by decide +kernel⟩
  rw [hone]
  decide +kernel

end HealthAgent
