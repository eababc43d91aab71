import HealthAgent.Proofs.EventLog.Separation
/-!
# A crash after a clearing

A cycle that clears the log writes the cursor only then. If it is cut short in between, the cursor file
still holds a number of the erased log, and the next start trusts it. A new log that has come to hold an
entry of that number is then taken up behind that entry.

Results:
* `Resumes.carries`: what a restarted sensor makes of the cursor and the lines that a crash has left.
* `ensures_rewound`: a cursor that has been written since the clearing is 0.
* `new_log_handled_iff`: the first cycle that lists the new log handles all of it exactly if the log does
  not hold the number that the sensor has come to by then.
* `crash_after_clear_loses_entry`: a run where it does.
-/
namespace HealthAgent
open Program World

/-! ## Where a cursor gets to -/

theorem lastIndex_of_suffix {es fs : List LogEntry} (h : fs <:+ es) (hfs : fs ≠ []) (d : UInt64) :
    lastIndex d fs = lastIndex d es := by
  obtain ⟨seen, rfl⟩ := h
  rw [lastIndex_append, lastIndex_of_ne_nil hfs d]

/-- The cursor behind the lines `es`, once they are handled. -/
def TailPlan.past (es : List LogEntry) (cursor : UInt64) : UInt64 := lastIndex cursor (todo es cursor)

/-- To handle the lines again does not move the cursor. -/
theorem TailPlan.past_past (es : List LogEntry) (cursor : UInt64) :
    past es (past es cursor) = past es cursor := by
  by_cases hnone : todo es cursor = []
  · have hsame : past es cursor = cursor := by
      rw [past, hnone]
      rfl
    rw [hsame, hsame]
  · by_cases hagain : todo es (past es cursor) = []
    · rw [past, hagain]
      rfl
    · have hlast : past es cursor = lastIndex cursor es :=
        lastIndex_of_suffix (todo_suffix _ _) hnone cursor
      rw [past, lastIndex_of_suffix (todo_suffix _ _) hagain, hlast]
      refine lastIndex_of_ne_nil ?_ _ _
      rintro rfl
      exact hnone rfl

/-! ## A restart -/

/-- Files are read, and the log is not cleared; all else may be answered in any way. -/
def Rules.resuming : Rules := .only fun ev => ev.legible && !ev.clears

theorem Rules.resuming_still : resuming.Still := only_still _

theorem Rules.resuming_reads : resuming.Reads := only_reads fun _ h => (Bool.and_eq_true _ _ ▸ h).1

/-- What can become of a world that a crash has left: the log gets more entries, a sensor starts, and it
runs cycles that do not list the log. -/
inductive Resumes (folder : String) (v : World) : LogSensor → World → Prop
  | start {s : LogSensor} {u w : World} (grown : v.Grows u) (config : LogConfig)
      (context : AlertContext) (zone : Calendar.Zone)
      (runs : Runs Rules.resuming.Step (acts (LogSensor.start folder config context zone)) u
        (some (.ok s)) w) : Resumes folder v s w
  | drift {s : LogSensor} {u w : World} (before : Resumes folder v s u) (grown : u.Grows w) :
      Resumes folder v s w
  | poll {s s' : LogSensor} {u w : World} {evs : List Event} (before : Resumes folder v s u)
      (now : Nat) (runs : Runs Rules.resuming.Step (s.pollActs now) u (some (.proceed, s')) w)
      (events : w.history = u.history ++ evs) (unlisted : evs.any Event.lists = false) :
      Resumes folder v s' w

/-- A cycle that does not list the log moves the cursor past the lines in the buffer, if it moves it. -/
theorem LogSensor.unlisted_cycle {s s' : LogSensor} {w v : World} {now : Nat} {evs : List Event}
    (hst : s.store.Apart)
    (hrun : Runs Rules.resuming.Step (s.pollActs now) w (some (.proceed, s')) v)
    (hevs : v.history = w.history ++ evs) (hunlisted : evs.any Event.lists = false) :
    s'.store = s.store ∧
      TailPlan.past (LogEntry.parseLines (v.buffer s.store)) s'.cursor =
        TailPlan.past (LogEntry.parseLines (w.buffer s.store)) s.cursor := by
  have hpolled : w.Polled Rules.resuming s v .proceed s' :=
    (ensures_polled Rules.resuming_still.orderly s hst now w _ v hrun).2 _ rfl
  generalize ho : Outcome.proceed = o at hpolled
  cases hpolled with
  | @failed e cursor unsaved hcycled =>
    cases hcycled with
    | idle r hsince hgrown hbuffer => exact ⟨rfl, by rw [hbuffer]⟩
    | fatal e hfatal =>
      simp only [Outcome.ofResult, hfatal.1, if_true] at ho
      cases ho
  | cleared hcycled hstill hchecks hreset =>
    cases hchecks with
    | clears hp hadmits hclears => cases hadmits
  | @kept _ u cursor unsaved usage hcycled hstill hchecks =>
    cases hcycled with
    | idle r hsince hgrown hbuffer hunread => exact absurd Rules.resuming_reads (hunread rfl)
    | @through l es as hsince halerts hgrown hsource hleft =>
      obtain ⟨-, hlists, -⟩ := hsince.closed hchecks.closes hevs
      rw [hunlisted] at hlists
      rcases hsource with ⟨hl, -⟩ | ⟨-, -, hold⟩
      · rw [← hlists] at hl
        cases hl
      · refine ⟨rfl, ?_⟩
        rw [hchecks.buffer, ← hold, TailPlan.nextCursor_getD]
        rcases hleft with hnone | hsame
        · rw [hnone]
          rfl
        · rw [hsame]
          exact TailPlan.past_past es s.cursor

/-- A restarted sensor carries on with the cursor and the lines that the crash has left. -/
theorem Resumes.carries {folder : String} {v w : World} {s : LogSensor} (h : Resumes folder v s w) :
    s.store = .inFolder folder ∧
      TailPlan.past (LogEntry.parseLines (w.buffer (.inFolder folder))) s.cursor =
        TailPlan.past (LogEntry.parseLines (v.buffer (.inFolder folder)))
          (v.cursor (.inFolder folder)) := by
  induction h with
  | @start s u w grown config context zone runs =>
    have hρ := Rules.resuming_still.orderly
    obtain ⟨hopens, hcursor⟩ := (ensures_start hρ folder config context zone u _ w runs).2 _ rfl
    obtain ⟨hstore, hfile⟩ := hcursor s rfl
    have hkeeps := hopens.keeps
    have hm := grown.moves (.inFolder folder)
    have hread : s.cursor = w.cursor (.inFolder folder) := by
      rcases hfile with heq | ⟨-, hmisses⟩
      · rw [heq, hstore]
      · exact absurd Rules.resuming_reads hmisses.not_reads
    refine ⟨hstore, ?_⟩
    rw [hread, hkeeps.1, hkeeps.2, hm.cursor, hm.buffer]
  | drift before grown ih =>
    rw [(grown.moves (.inFolder folder)).buffer]
    exact ih
  | poll before now runs events unlisted ih =>
    obtain ⟨hstore, hpast⟩ := ih
    have hst : LogStore.Apart (.inFolder folder) := LogStore.inFolder_apart folder
    rw [← hstore] at hst hpast ⊢
    obtain ⟨hsame, hcycle⟩ := LogSensor.unlisted_cycle hst runs events unlisted
    exact ⟨hsame, hcycle.trans hpast⟩

/-! ## What the cursor file tells -/

/-- If the cursor has been written since the log was cleared, it is 0. -/
def World.Rewound (st : LogStore) (w : World) : Prop :=
  (sinceClear w.history).any (Event.writes st.cursorPath) = true → w.cursor st = 0

def World.Unclear (w v : World) : Prop :=
  ∃ evs, v.history = w.history ++ evs ∧ ∀ ev ∈ evs, ev.clears = false

theorem World.Unasked.unclear {w v : World} (h : w.Unasked v) : w.Unclear v := by
  obtain ⟨evs, hhistory, hask⟩ := h
  exact ⟨evs, hhistory, fun ev hev => Event.clears_eq_false (hask ev hev)⟩

/-- If a cycle has cleared the log and written the cursor since, the cursor is 0. -/
theorem ensures_rewound {ρ : Rules} (hρ : ρ.Orderly) (s : LogSensor) (hst : s.store.Apart) (now : Nat)
    (w : World) :
    Ensures ρ.Step (fun v => w.Unclear v ∨ v.Rewound s.store) (s.pollActs now) w fun _ _ => True := by
  have hcycle := ensures_cycled_still hρ s hst w
  refine Ensures.bind (hcycle.mono (fun _ h => .inl h.unclear) fun _ _ hi h => And.intro hi h) ?_
  intro r v h
  obtain ⟨r, s₁⟩ := r
  obtain ⟨hunasked, cursor, unsaved, rfl, hcycled, hstill⟩ := h
  cases r with
  | error e => exact .done (.inl hunasked.unclear) trivial
  | ok x =>
    have hkept : ∀ v', v.Closes false v' → w.Unclear v' := by
      intro v' hclose
      obtain ⟨evs, hhistory, hclear⟩ := hunasked.unclear
      obtain ⟨evs', hhistory', -, -, -, hclear'⟩ := hclose
      refine ⟨evs ++ evs', ?_, ?_⟩
      · rw [hhistory', hhistory, List.append_assoc]
      · intro ev hev
        rcases List.mem_append.1 hev with hmem | hmem
        · exact hclear ev hmem
        · simpa using List.any_eq_false.1 hclear' ev hmem
    have hreset : ∀ u v', v.Checks ρ s.store u true →
        (u.Passes s.store [] v' ∨ u.Saves s.store 0 v') → v'.Rewound s.store := by
      intro u v' hc hv' hwritten
      rcases hv' with ⟨evs, hidle, -, hm⟩ | ⟨bytes, hm⟩
      · have hquiet := fun ev hev => Event.quiet_spec (Event.idle_spec (hidle ev hev)).1
        rw [hm.history, sinceClear_append _ _ fun ev hev => (hquiet ev hev).1, hc.sinceClear,
          List.nil_append, List.any_eq_true] at hwritten
        obtain ⟨ev, hev, hwrites⟩ := hwritten
        rw [(hquiet ev hev).2.1] at hwrites
        cases hwrites
      · exact hm.cursor
    have hI : ∀ v', ((∃ cleared, v.Checks ρ s.store v' cleared) ∨ ∃ u, v.Checks ρ s.store u true ∧
        (u.Passes s.store [] v' ∨ u.Saves s.store 0 v')) → w.Unclear v' ∨ v'.Rewound s.store := by
      intro v' h
      rcases h with ⟨_ | _, hc⟩ | ⟨u, hc, hv'⟩
      · exact .inl (hkept v' hc.closes)
      · exact .inr (hreset v' v' hc (.inl (.refl _ v')))
      · exact .inr (hreset u v' hc hv')
    have hcheck := ensures_checkUsage hρ { s with cursor, cursorUnsaved := unsaved } hst now v
    refine Ensures.bind (hcheck.mono hI fun _ v' hi _ => hI v' hi) ?_
    intro r v' h
    exact .done h trivial

namespace Trial

/-- The world after `n` acts of a cycle that clears its log. -/
def spent (n : Nat) : World := (poised.cycle full n 0).world

def restarted (n : Nat) : Machine :=
  (⟨none, spent n⟩ : Machine).launch keeping 100 "state" config context .utc

/-- The same machine with a new log of two entries. -/
def refilled (n : Nat) : Machine := (restarted n).withLog (line "1" "new" ++ line "2" "new")

/-- A sensor is started after `n` acts of a cycle that has cleared the log, and its first cycle lists
the new log. -/
def Restarts (n : Nat) : Prop :=
  (restarted n).sensor.isSome = true ∧
    ((⟨none, spent n⟩ : Machine).eventsTo (restarted n)).all
      (fun ev => ev.legible && !ev.clears) = true ∧
    ((restarted n).world.entries <+: (refilled n).world.entries ∧
      Increasing (refilled n).world.entries) ∧
    (refilled n).outcome keeping 100 0 = some .proceed ∧
    ((refilled n).eventsTo ((refilled n).cycle keeping 100 0)).any Event.lists = true

instance (n : Nat) : Decidable (Restarts n) := inferInstanceAs (Decidable (_ ∧ _))

theorem Restarts.resumes {n : Nat} (h : Restarts n) : ∃ s₁ s₂ t evs,
    Resumes "state" (spent n) s₁ (refilled n).world ∧
    Runs Rules.still.Step (s₁.pollActs 0) (refilled n).world (some (.proceed, s₂)) t ∧
    t.history = (refilled n).world.history ++ evs ∧ evs.any Event.lists = true ∧
    evs = (refilled n).eventsTo ((refilled n).cycle keeping 100 0) := by
  obtain ⟨hsome, hevents, ⟨hpre, hinc⟩, hdone, hlists⟩ := h
  obtain ⟨s₁, hs₁, hstart⟩ := Machine.exists_started_only hsome hevents
  obtain ⟨s₁', s₂, hs₁', -, hrun, hevs⟩ :=
    Machine.exists_completed Rules.still_still.orderly keeping.obey_still hdone
  obtain rfl : s₁ = s₁' := Option.some.inj (hs₁.symm.trans hs₁')
  refine ⟨s₁, s₂, _, _, ?_, hrun, hevs, hlists, rfl⟩
  exact (Resumes.start (Grows.refl _) config context .utc hstart).drift
    ⟨⟨hpre, fun _ => hinc⟩, rfl, rfl⟩

theorem poised_run (n : Nat) : ∃ s r, Machine.Reachable (.tidy (.inFolder "state"))
      (World.Reset (.inFolder "state")) "state" ⟨some s, poised.world⟩ ∧
    poised.world.cursor (.inFolder "state") = s.cursor ∧
    Runs Rules.still.Step (s.pollActs 0) poised.world r (spent n) ∧
    (spent n).history = poised.world.history ++ poised.eventsTo (poised.cycle full n 0) := by
  have hcursor : poised.sensor.map (·.cursor) = some (poised.world.cursor (.inFolder "state")) := by
    decide +kernel
  obtain ⟨s, hs, hsame⟩ := Option.map_eq_some_iff.1 hcursor
  have hrun := Replies.runs full.obey_still n (s.pollActs 0) poised.world
  have hworld : spent n = ((s.pollActs 0).runFor full.handle n poised.world).2 := by
    rw [spent, show poised = ⟨some s, poised.world⟩ by rw [← hs]]
    rfl
  rw [← hworld] at hrun
  exact ⟨s, _, poised_sensor hs, hsame.symm, hrun,
    (List.prefix_iff_eq_append.1 (runs_history Rules.still_still.orderly hrun)).symm⟩

end Trial

/-- After a cycle that has cleared the log, cut short or not, and a restart, the first cycle that lists
the new log handles all of it exactly if the log does not hold the number to which the cursor file and
the lines in the buffer lead. The cursor file tells 0 if it has been written since the clearing. -/
theorem new_log_handled_iff {folder : String} {s s₁ s₂ : LogSensor} {w v u t : World}
    {now now' : Nat} {r : Option (Outcome × LogSensor)} {evs evs' : List Event}
    (hstore : s.store = .inFolder folder) (hpoll : Runs Rules.still.Step (s.pollActs now) w r v)
    (hevs : v.history = w.history ++ evs) (hclears : evs.any Event.clears = true)
    (hresumes : Resumes folder v s₁ u)
    (hfirst : Runs Rules.still.Step (s₁.pollActs now') u (some (.proceed, s₂)) t)
    (hevs' : t.history = u.history ++ evs') (hlists : evs'.any Event.lists = true)
    (hdistinct : Distinct u.entries) :
    ((∀ x ∈ u.entries, x ∈ handled evs') ↔ ∀ e ∈ u.entries, e.index ≠
      TailPlan.past (LogEntry.parseLines (v.buffer (.inFolder folder)))
        (v.cursor (.inFolder folder))) ∧
    ((sinceClear v.history).any (Event.writes (LogStore.inFolder folder).cursorPath) = true →
      v.cursor (.inFolder folder) = 0) := by
  have hst : LogStore.Apart (.inFolder folder) := LogStore.inFolder_apart folder
  constructor
  · obtain ⟨hstore₁, hpast⟩ := hresumes.carries
    rw [← hstore₁] at hst
    have hpolled := (ensures_polled Rules.still_still.orderly s₁ hst now' u _ t hfirst).2 _ rfl
    have hnone := hpolled.buffer_of_lists hevs' hlists
    rw [hstore₁] at hnone
    rw [hnone] at hpast
    obtain ⟨hhandled, -⟩ :=
      listed_cycle Rules.still_still hpolled rfl hevs' (List.any_eq_true.1 hlists)
    rw [hhandled, ← hpast]
    exact TailPlan.all_todo_iff hdistinct s₁.cursor
  · rw [← hstore] at hst ⊢
    have hrewound := (ensures_rewound Rules.still_still.orderly s hst now w r v hpoll).1
    refine hrewound.resolve_left ?_
    rintro ⟨evs₀, hhistory, hnone⟩
    rw [hevs, List.append_cancel_left_eq] at hhistory
    obtain ⟨ev, hev, hclear⟩ := List.any_eq_true.1 hclears
    rw [hhistory] at hev
    rw [hnone ev hev] at hclear
    cases hclear

theorem new_log_handled_written : ∃ (s s₁ s₂ : LogSensor) (w v u t : World) (r : _) (evs evs' : _),
    s.store = .inFolder "state" ∧ Runs Rules.still.Step (s.pollActs 0) w r v ∧
    v.history = w.history ++ evs ∧ evs.any Event.clears = true ∧ Resumes "state" v s₁ u ∧
    Runs Rules.still.Step (s₁.pollActs 0) u (some (.proceed, s₂)) t ∧
    t.history = u.history ++ evs' ∧ evs'.any Event.lists = true ∧
    u.entries.map (·.index) = [1, 2] ∧ ∀ x ∈ u.entries, x ∈ handled evs' := by
  have hrestarts : Trial.Restarts 10 := by decide +kernel
  obtain ⟨s, r, hreach, -, hpoll, hevs⟩ := Trial.poised_run 10
  obtain ⟨s₁, s₂, t, evs', hresumes, hfirst, hevs', hlists, -⟩ := hrestarts.resumes
  have hstore : s.store = .inFolder "state" := (hreach.tidy_sound.sensor s rfl).1
  have hclears : (Trial.poised.eventsTo (Trial.poised.cycle Trial.full 10 0)).any Event.clears =
      true := by decide +kernel
  have hdistinct : Distinct (Trial.refilled 10).world.entries := by decide +kernel
  refine ⟨s, s₁, s₂, _, _, _, t, r, _, evs', hstore, hpoll, hevs, hclears, hresumes, hfirst, hevs',
    hlists, by decide +kernel, ?_⟩
  exact (new_log_handled_iff hstore hpoll hevs hclears hresumes hfirst hevs' hlists hdistinct).1.2
    (by decide +kernel)

/-- If a cycle is cut short between the clearing of the log and the writing of the cursor, the first
cycle after the restart that lists the new log leaves out an entry of it. -/
theorem crash_after_clear_loses_entry : ∃ s s₁ s₂ w v u t r evs evs',
    Machine.Reachable (.tidy (.inFolder "state")) (World.Reset (.inFolder "state")) "state"
      ⟨some s, w⟩ ∧ w.cursor (.inFolder "state") = s.cursor ∧
    Runs Rules.still.Step (s.pollActs 0) w r v ∧
    v.history = w.history ++ evs ∧ evs.any Event.clears = true ∧ Resumes "state" v s₁ u ∧
    Runs Rules.still.Step (s₁.pollActs 0) u (some (.proceed, s₂)) t ∧
    t.history = u.history ++ evs' ∧ evs'.any Event.lists = true ∧
    u.entries.map (·.index) = [1, 2] ∧ (handled evs').map (·.index) = [2] := by
  have hrestarts : Trial.Restarts 9 := by decide +kernel
  obtain ⟨s, r, hreach, hcursor, hpoll, hevs⟩ := Trial.poised_run 9
  obtain ⟨s₁, s₂, t, evs', hresumes, hfirst, hevs', hlists, rfl⟩ := hrestarts.resumes
  exact ⟨s, s₁, s₂, _, _, _, t, r, _, _, hreach, hcursor, hpoll, hevs, by decide +kernel, hresumes,
    hfirst, hevs', hlists, by decide +kernel, by decide +kernel⟩

end HealthAgent
