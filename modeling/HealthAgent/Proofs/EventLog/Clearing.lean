import HealthAgent.Proofs.EventLog.Completed
import HealthAgent.Proofs.EventLog.Replies
/-!
# What is known when the log is cleared

A cycle clears the log after it has handled what its plan left it to do. If the plan was for the log
itself and the cursor vouched for the rest, the log's entries have been handled. If it was for an old
buffer, or there was none since the buffer could not be read, the entries that came later are cleared
unhandled.

Results:
* `ensures_clearsKnown`: what a cycle has planned and handled when it asks for the clearing of the log.
* `handled_at_clear_iff`: the log's entries have been handled exactly if the cycle's plan has left to
  do all that were not.
* `unread_buffer_loses_entry`: a cycle that clears an entry nobody has handled.
-/
namespace HealthAgent
open Program World

namespace World

/-- What a cycle of a sensor that began in `w₀` has planned and handled with these events. -/
structure ClearKnown (s : LogSensor) (w₀ : World) (before : List Event) : Prop where
  unasked : ∀ ev ∈ before, ev.asksClear = false
  handled : HealthAgent.handled before = TailPlan.todo (planned before) s.cursor
  source : before.any Event.lists = true ∧ planned before = w₀.entries ∨
    before.any Event.lists = false ∧
      (planned before = [] ∨ planned before = LogEntry.parseLines (w₀.buffer s.store))

/-- Whenever a cycle that began in `w₀` has asked for the clearing of the log. -/
def ClearsKnown (s : LogSensor) (w₀ v : World) : Prop :=
  ∀ before a rest, v.history = w₀.history ++ before ++ ⟨.ask (.ipmi .logClear), a⟩ :: rest →
    w₀.ClearKnown s before

variable {s : LogSensor} {w₀ w v : World} {l : Bool} {ps : List LogEntry} {as : List AlertRecord}

theorem Unasked.clearsKnown (h : w₀.Unasked v) : w₀.ClearsKnown s v := by
  obtain ⟨evs, hhistory, hask⟩ := h
  intro before a rest hsplit
  rw [hhistory, List.append_assoc, List.append_cancel_left_eq] at hsplit
  have hmem : (⟨.ask (.ipmi .logClear), a⟩ : Event) ∈ evs := by simp [hsplit]
  have hfalse := hask _ hmem
  cases hfalse

/-- Of two splits at a request to clear the log, the first part is the same if one of them has no
such request before and behind. -/
theorem split_unique {xs ys zs us : List Event} {ev ev' : Event}
    (h : xs ++ ev :: ys = zs ++ ev' :: us) (hxs : ∀ e ∈ xs, e.asksClear = false)
    (hys : ∀ e ∈ ys, e.asksClear = false) (hev' : ev'.asksClear = true) : zs = xs := by
  rcases List.append_eq_append_iff.1 h with ⟨t, hzs, htail⟩ | ⟨t, hxs', htail⟩
  · cases t with
    | nil => rw [hzs, List.append_nil]
    | cons e t =>
      obtain ⟨-, rfl⟩ := List.cons_eq_cons.1 htail
      have hfalse := hys ev' (by simp)
      rw [hev'] at hfalse
      cases hfalse
  · cases t with
    | nil => rw [hxs', List.append_nil]
    | cons e t =>
      obtain ⟨rfl, -⟩ := List.cons_eq_cons.1 htail
      have hfalse := hxs ev' (by simp [hxs'])
      rw [hev'] at hfalse
      cases hfalse

/-- What a cycle knows when it asks for the clearing of the log, after it has handled its entries. -/
theorem Since.clearsKnown (h : w₀.Since l ps (TailPlan.todo ps s.cursor) as w)
    (hsource : l = true ∧ ps = w₀.entries ∨
      l = false ∧ (ps = [] ∨ ps = LogEntry.parseLines (w₀.buffer s.store)))
    {a : Except SourceError String} {rest : List Event}
    (hhistory : v.history = w.history ++ ⟨.ask (.ipmi .logClear), a⟩ :: rest)
    (hrest : ∀ ev ∈ rest, ev.asksClear = false) : w₀.ClearsKnown s v := by
  obtain ⟨evs, hw, hask, rfl, rfl, hhandled, -⟩ := h
  intro before a' rest' hsplit
  rw [hhistory, hw, List.append_assoc, List.append_assoc, List.append_cancel_left_eq] at hsplit
  obtain rfl : before = evs := split_unique hsplit hask hrest rfl
  exact ⟨hask, hhandled, hsource⟩

/-- The log's entries have been handled exactly if the plan has left to do all that were not. -/
theorem ClearKnown.handled_iff {before : List Event} (h : w₀.ClearKnown s before) :
    (∀ x ∈ w₀.entries, x ∈ HealthAgent.handled (sinceClear (w₀.history ++ before))) ↔
      ∀ x ∈ w₀.entries, x ∈ w₀.settled ∨ x ∈ TailPlan.todo (planned before) s.cursor := by
  have hclear : ∀ ev ∈ before, ev.clears = false :=
    fun ev hev => Event.clears_eq_false (h.unasked ev hev)
  have hnow : HealthAgent.handled (sinceClear (w₀.history ++ before)) =
      w₀.settled ++ TailPlan.todo (planned before) s.cursor := by
    rw [sinceClear_append _ _ hclear, handled_append, h.handled]
    rfl
  simp only [hnow, List.mem_append]

/-- Plans are made for a beginning of the log. -/
theorem ClearKnown.planned_prefix {before : List Event} (h : w₀.ClearKnown s before)
    (hw : w₀.Sound s.store) : planned before <+: w₀.entries := by
  rcases h.source with ⟨-, hall⟩ | ⟨-, hnone | hold⟩
  · exact hall ▸ List.prefix_refl _
  · rw [hnone]
    exact List.nil_prefix
  · rw [hold]
    exact hw.buffered

end World

/-- What a cycle has planned and handled when it asks for the clearing of the log. -/
theorem ensures_clearsKnown {ρ : Rules} (hρ : ρ.Still) (s : LogSensor) (hst : s.store.Apart)
    (now : Nat) (w : World) :
    Ensures ρ.Step (w.ClearsKnown s) (s.pollActs now) w fun _ _ => True := by
  have hcycle := ensures_cycled_still hρ.orderly s hst w
  refine Ensures.bind (hcycle.mono (fun _ h => h.clearsKnown) fun _ _ hi h => And.intro hi h) ?_
  intro r v h
  obtain ⟨r, s₁⟩ := r
  obtain ⟨hunasked, cursor, unsaved, rfl, hcycled, hstill⟩ := h
  cases r with
  | error e => exact .done hunasked.clearsKnown trivial
  | ok x =>
    obtain ⟨l, ps, as, hsince, -, hsource⟩ := hcycled.told (hstill hρ)
    -- between the handling of the entries and the clearing there are idle requests only
    have hasked : ∀ {u v' : World} {a : _} {rest : List Event}, v.Passes s.store [] u →
        v'.history = u.history ++ ⟨.ask (.ipmi .logClear), a⟩ :: rest →
        (∀ ev ∈ rest, ev.asksClear = false) → w.ClearsKnown s v' := by
      intro u v' a rest hp hhistory hrest
      exact (hsince.passes hp).clearsKnown hsource hhistory hrest
    have hchecks : ∀ {cleared : Bool} {v' : World}, v.Checks ρ s.store v' cleared →
        w.ClearsKnown s v' := by
      intro cleared v' hc
      cases hc with
      | passes hp => exact (hunasked.trans hp.unasked).clearsKnown
      | refuses hp hr =>
        obtain ⟨e, hm⟩ := hr
        exact hasked hp hm.history (by simp)
      | clears hp hadmits hclears =>
        obtain ⟨text, hhistory⟩ := hclears.history
        exact hasked hp hhistory (by simp)
    have hreset : ∀ {u v' : World}, v.Checks ρ s.store u true →
        (u.Passes s.store [] v' ∨ u.Saves s.store 0 v') → w.ClearsKnown s v' := by
      intro u v' hc hv'
      cases hc with
      | clears hp hadmits hclears =>
        obtain ⟨text, hhistory⟩ := hclears.history
        have hmore : ∀ rest, v'.history = u.history ++ rest →
            (∀ ev ∈ rest, ev.asksClear = false) → w.ClearsKnown s v' := by
          intro rest heq hrest
          rw [hhistory, List.append_assoc] at heq
          exact hasked hp heq hrest
        rcases hv' with ⟨evs, hidle, -, hm⟩ | ⟨bytes, hm⟩
        · exact hmore evs hm.history fun ev hev => (Event.idle_spec (hidle ev hev)).2.1
        · exact hmore _ hm.history (by simp [Event.asksClear])
    have hI : ∀ v', ((∃ cleared, v.Checks ρ s.store v' cleared) ∨ ∃ u, v.Checks ρ s.store u true ∧
        (u.Passes s.store [] v' ∨ u.Saves s.store 0 v')) → w.ClearsKnown s v' := by
      intro v' h
      rcases h with ⟨cleared, hc⟩ | ⟨u, hc, hv'⟩
      · exact hchecks hc
      · exact hreset hc hv'
    have hcheck := ensures_checkUsage hρ.orderly { s with cursor, cursorUnsaved := unsaved } hst now v
    refine Ensures.bind (hcheck.mono hI fun _ v' hi _ => hI v' hi) ?_
    intro r v' h
    exact .done h trivial

/-! ## Clearings with nothing left in the buffer -/

/-- The log gets more entries, and is only cleared with nothing of it left in the buffer. -/
def Rules.tidy (st : LogStore) : Rules where
  drifts := World.Grows
  admits w a r := (Event.mk a r).clears = true → LogEntry.parseLines (w.buffer st) = []

theorem Machine.Reachable.tidy_sound {folder : String} {m : Machine}
    (h : Reachable (.tidy (.inFolder folder)) (World.Reset (.inFolder folder)) folder m) :
    m.Sound folder := by
  induction h with
  | init hcursor hpending hhistory hinc => exact .init hpending hcursor hhistory hinc
  | step before hstep ih =>
    refine ih.step (fun _ _ h => h) ?_ (fun h => h) hstep
    intro w text hadmits
    exact hadmits rfl

/-! ## A cycle that clears the log -/

theorem exists_asksClear (evs : List Event) (h : evs.any Event.asksClear = true) :
    ∃ a rest, evs = evs.takeWhile (!·.asksClear) ++ ⟨.ask (.ipmi .logClear), a⟩ :: rest := by
  induction evs with
  | nil => cases h
  | cons ev evs ih =>
    cases hev : ev.asksClear with
    | true =>
      unfold Event.asksClear at hev
      split at hev
      · rename_i a
        exact ⟨a, evs, by simp [Event.asksClear]⟩
      · cases hev
    | false =>
      rw [List.any_cons, hev, Bool.false_or] at h
      obtain ⟨a, rest, heq⟩ := ih h
      refine ⟨a, rest, ?_⟩
      rw [List.takeWhile_cons_of_pos (by simp [hev]), List.cons_append, ← heq]

namespace Trial

theorem keeping_tidy (st : LogStore) : keeping.Obey (.tidy st) := by
  intro w a
  refine ⟨World.Grows.refl w, ?_⟩
  intro h
  rw [keeping_clears] at h
  cases h

/-- A machine whose sensor is about to run its first cycle, with one entry in the log. -/
def poised : Machine := (fresh (line "1" "")).launch keeping 100 "state" config context .utc

theorem poised_reachable : Machine.Reachable (.tidy (.inFolder "state"))
    (World.Reset (.inFolder "state")) "state" poised := by
  have hinc : Increasing (LogEntry.parseLines (line "1" "").writtenLines) := by decide +kernel
  exact (fresh_reachable hinc _ _ "state").launch (keeping_tidy _) (.inl rfl) config context .utc

def full : Replies := replies "95%" "" (.ok "")

/-- The same controller, with a buffer that cannot be read. -/
def unread : Replies := { full with readable := (· ≠ (LogStore.inFolder "state").pendingPath) }

end Trial

theorem Trial.poised_cycle (R : Replies) (hdone : poised.outcome R 100 0 = some .proceed)
    (h : (poised.eventsTo (poised.cycle R 100 0)).any Event.asksClear = true) :
    ∃ s r a rest, Machine.Reachable (.tidy (.inFolder "state")) (World.Reset (.inFolder "state"))
        "state" ⟨some s, poised.world⟩ ∧
      Runs Rules.still.Step (s.pollActs 0) poised.world r (poised.cycle R 100 0).world ∧
      (poised.cycle R 100 0).world.history = poised.world.history ++
        (poised.eventsTo (poised.cycle R 100 0)).takeWhile (!·.asksClear) ++
          ⟨.ask (.ipmi .logClear), a⟩ :: rest := by
  obtain ⟨s, s', hs, -, hrun, hhistory⟩ :=
    Machine.exists_completed Rules.still_still.orderly R.obey_still hdone
  obtain ⟨a, rest, hsplit⟩ := exists_asksClear _ h
  refine ⟨s, _, a, rest, ?_, hrun, ?_⟩
  · rw [← hs]
    exact poised_reachable
  · rw [List.append_assoc, ← hsplit]
    exact hhistory

/-- When a cycle asks for the clearing of a log that stays as it is, the log's entries have been
handled exactly if the cycle's plan has left to do all that were not. The plan is for the log if the
cycle has listed it; else it is for what the buffer held, or there is none. It leaves out nothing that
was not handled, unless an earlier clearing has left a buffer or a cursor of the old log behind. -/
theorem handled_at_clear_iff {folder : String} {s : LogSensor} {w v : World}
    (hstore : s.store = .inFolder folder) {now : Nat} {r : Option (Outcome × LogSensor)}
    (hrun : Runs Rules.still.Step (s.pollActs now) w r v) {before rest : List Event}
    {a : Except SourceError String}
    (hclear : v.history = w.history ++ before ++ ⟨.ask (.ipmi .logClear), a⟩ :: rest) :
    ((∀ x ∈ w.entries, x ∈ handled (sinceClear (w.history ++ before))) ↔
      ∀ x ∈ w.entries, x ∈ handled (sinceClear w.history) ∨
        x ∈ TailPlan.todo (planned before) s.cursor) ∧
    (before.any Event.lists = true ∧ planned before = w.entries ∨
      before.any Event.lists = false ∧ (planned before = [] ∨
        planned before = LogEntry.parseLines (w.buffer (.inFolder folder)))) ∧
    (Machine.Reachable (.tidy (.inFolder folder)) (World.Reset (.inFolder folder)) folder
        ⟨some s, w⟩ →
      ∀ x ∈ planned before, x ∈ TailPlan.todo (planned before) s.cursor ∨
        x ∈ handled (sinceClear w.history)) := by
  have hst : s.store.Apart := by
    rw [hstore]
    exact LogStore.inFolder_apart folder
  have hknown : w.ClearKnown s before :=
    (ensures_clearsKnown Rules.still_still s hst now w r v hrun).1 before a rest hclear
  have hsource := hknown.source
  rw [hstore] at hsource
  refine ⟨hknown.handled_iff, hsource, ?_⟩
  intro hm x hx
  obtain ⟨-, hsound⟩ := hm.tidy_sound.sensor s rfl
  exact hsound.covers.mem_todo_or_settled hsound.world.increasing
    (hknown.planned_prefix hsound.world) hx

theorem handled_at_clear_listed : ∃ s v r before rest a,
    s.store = .inFolder "state" ∧
    Machine.Reachable (.tidy (.inFolder "state")) (World.Reset (.inFolder "state")) "state"
      ⟨some s, Trial.poised.world⟩ ∧
    Runs Rules.still.Step (s.pollActs 0) Trial.poised.world r v ∧
    v.history = Trial.poised.world.history ++ before ++ ⟨.ask (.ipmi .logClear), a⟩ :: rest ∧
    ∀ x ∈ Trial.poised.world.entries,
      x ∈ handled (sinceClear (Trial.poised.world.history ++ before)) := by
  obtain ⟨s, r, a, rest, hreach, hrun, hsplit⟩ := Trial.poised_cycle Trial.full (by decide +kernel)
    (by decide +kernel)
  have hstore : s.store = .inFolder "state" := (hreach.tidy_sound.sensor s rfl).1
  refine ⟨s, _, r, _, rest, a, hstore, hreach, hrun, hsplit, ?_⟩
  obtain ⟨hiff, hsource, hwhole⟩ := handled_at_clear_iff hstore hrun hsplit
  refine hiff.2 ?_
  intro x hx
  rcases hsource with ⟨-, hall⟩ | ⟨hfalse, -⟩
  · rw [← hall] at hx
    exact (hwhole hreach x hx).symm
  · exact absurd hfalse (by decide +kernel)

/-- A cycle that cannot read the buffer clears an entry that nobody has handled. -/
theorem unread_buffer_loses_entry : ∃ s v r before rest a,
    Machine.Reachable (.tidy (.inFolder "state")) (World.Reset (.inFolder "state")) "state"
      ⟨some s, Trial.poised.world⟩ ∧
    Runs Rules.still.Step (s.pollActs 0) Trial.poised.world r v ∧
    v.history = Trial.poised.world.history ++ before ++ ⟨.ask (.ipmi .logClear), a⟩ :: rest ∧
    v.entries = [] ∧ ∃ x ∈ Trial.poised.world.entries,
      x ∉ handled (Trial.poised.world.history ++ before) := by
  obtain ⟨s, r, a, rest, hreach, hrun, hsplit⟩ := Trial.poised_cycle Trial.unread (by decide +kernel)
    (by decide +kernel)
  refine ⟨s, _, r, _, rest, a, hreach, hrun, hsplit, by decide +kernel, ?_⟩
  have hlost : ∃ x ∈ Trial.poised.world.entries,
      x ∉ handled (Trial.poised.cycle Trial.unread 100 0).world.history := by decide +kernel
  obtain ⟨x, hx, hnot⟩ := hlost
  refine ⟨x, hx, fun hmem => hnot ?_⟩
  rw [hsplit, handled_append]
  exact List.mem_append_left _ hmem

end HealthAgent
