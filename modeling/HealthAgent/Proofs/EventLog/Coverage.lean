import HealthAgent.Proofs.EventLog.Parts
/-!
# What a cursor vouches for

A cursor is either 0 or the number of an entry of the log, and all entries up to it have been handled
since the log was last cleared: it covers them. A world is sound if its cursor file covers entries,
its buffer is a beginning of the log and no plan has left out an entry that was not handled. Each
effect keeps this, and so does each part of a cycle, wherever it is cut short.

The log is cleared before the cursor file is reset. In between the file vouches for nothing, which is
why `Sound.saved` asks for a cursor that has been written since.

Results:
* `Covers.grow`: a cursor covers what it did when the log has grown.
* `Sound.passes`, `Sound.saves`, `Sound.stores`, `Sound.lists`, `Sound.refuses`, `Sound.clears`:
  effects keep a world sound.
-/
namespace HealthAgent
open Program

/-- No plan has left out an entry that was not handled since the log was last cleared. -/
def PlansWhole (h : List Event) : Prop :=
  ∀ before es p, before ++ [⟨.plan es p, ()⟩] <+: h →
    ∀ x ∈ es, x ∈ p.unseen.map (·.entry) ∨ x ∈ handled (sinceClear before)

theorem PlansWhole.concat {h : List Event} {ev : Event} (hh : PlansWhole h)
    (hev : ∀ es p, ev = ⟨.plan es p, ()⟩ →
      ∀ x ∈ es, x ∈ p.unseen.map (·.entry) ∨ x ∈ handled (sinceClear h)) :
    PlansWhole (h ++ [ev]) := by
  intro before es p hpre
  rcases List.prefix_concat_iff.1 hpre with heq | hpre
  · obtain ⟨rfl, hlast⟩ := List.append_inj' heq rfl
    exact hev es p (List.singleton_inj.1 hlast).symm
  · exact hh before es p hpre

theorem PlansWhole.append {h evs : List Event} (hh : PlansWhole h)
    (hevs : ∀ ev ∈ evs, ev.planned = []) : PlansWhole (h ++ evs) := by
  induction evs generalizing h with
  | nil => rw [List.append_nil]; exact hh
  | cons ev evs ih =>
    have hstep : PlansWhole (h ++ [ev]) := by
      refine hh.concat ?_
      intro es p heq x hx
      have hnone := hevs ev List.mem_cons_self
      rw [heq] at hnone
      exact absurd hx (by rw [show es = [] from hnone]; simp)
    rw [show h ++ ev :: evs = (h ++ [ev]) ++ evs by simp]
    exact ih hstep fun e he => hevs e (List.mem_cons_of_mem _ he)

/-- The log is cleared only if nothing of it is left in the buffer. -/
def Rules.Tidy (ρ : Rules) (st : LogStore) : Prop :=
  ∀ w text, ρ.admits w (.ask (.ipmi .logClear)) (.ok text) →
    LogEntry.parseLines (w.buffer st) = []

namespace World

/-- The entries that have been handled since the log was last cleared. -/
def settled (w : World) : List LogEntry := handled (sinceClear w.history)

/-- The cursor is 0 or the number of an entry, and what it points behind has been handled. -/
def Covers (w : World) (c : UInt64) : Prop :=
  (c = 0 ∨ ∃ e ∈ w.entries, e.index = c) ∧ ∀ x ∈ w.entries, x.index ≤ c → x ∈ w.settled

/-- The state files fit the log and the past. -/
structure Sound (st : LogStore) (w : World) : Prop where
  increasing : Increasing w.entries
  saved : ResetSaved st w.history → w.Covers (w.cursor st)
  buffered : LogEntry.parseLines (w.buffer st) <+: w.entries
  plans : PlansWhole w.history

variable {st : LogStore} {c : UInt64} {b : List String} {evs : List Event} {w v : World}

theorem Moves.settled (hm : w.Moves st c b evs v) (hclear : ∀ ev ∈ evs, ev.clears = false) :
    v.settled = w.settled ++ handled evs := by
  unfold World.settled
  rw [hm.history, sinceClear_append _ _ hclear, handled_append]

theorem Passes.settled {alerts : List AlertRecord} (hp : w.Passes st alerts v) :
    w.settled ⊆ v.settled := by
  obtain ⟨evs, hidle, -, hm⟩ := hp
  rw [hm.settled fun ev hev => (Event.quiet_spec (Event.idle_spec (hidle ev hev)).1).1]
  exact List.subset_append_left _ _

theorem covers_zero (h : Increasing w.entries) : w.Covers 0 := by
  refine ⟨.inl rfl, ?_⟩
  intro x hx hle
  exact absurd (h.2 x hx) (UInt64.not_lt.2 hle)

theorem Covers.grow (h : w.Covers c) (hentries : w.entries <+: v.entries)
    (hinc : Increasing v.entries) (hsettled : w.settled ⊆ v.settled) : v.Covers c := by
  obtain ⟨hc, hall⟩ := h
  rcases hc with rfl | ⟨e, he, rfl⟩
  · exact covers_zero hinc
  · refine ⟨.inr ⟨e, hentries.subset he, rfl⟩, ?_⟩
    intro x hx hle
    have hold : x ∈ w.entries := hinc.mem_of_le hentries he hx hle
    exact hsettled (hall x hold hle)

theorem Covers.moves {c' : UInt64} (h : w.Covers c) (hw : Increasing w.entries)
    (hm : w.Moves st c' b evs v) (hclear : ∀ ev ∈ evs, ev.clears = false) : v.Covers c := by
  refine h.grow hm.entries (hm.increasing hw) ?_
  rw [hm.settled hclear]
  exact List.subset_append_left _ _

/-- A plan for a beginning of the log leaves out nothing but what has been handled. -/
theorem Covers.mem_todo_or_settled {es : List LogEntry} (h : w.Covers c)
    (hw : Increasing w.entries) (hes : es <+: w.entries) {x : LogEntry} (hx : x ∈ es) :
    x ∈ TailPlan.todo es c ∨ x ∈ w.settled := by
  rcases TailPlan.mem_todo_or_le (hw.of_prefix hes) c hx with hmem | hle
  · exact .inl hmem
  · exact .inr (h.2 x (hes.subset hx) hle)

namespace Sound

theorem moves (h : w.Sound st) (hm : w.Moves st c b evs v)
    (hclear : ∀ ev ∈ evs, ev.clears = false) (hplans : PlansWhole (w.history ++ evs))
    (hc : w.Covers c ∨ c = w.cursor st ∧ ∀ ev ∈ evs, ev.writes st.cursorPath = false)
    (hb : LogEntry.parseLines b <+: v.entries) : v.Sound st where
  increasing := hm.increasing h.increasing
  saved := by
    intro hreset
    rw [hm.cursor]
    rcases hc with hcov | ⟨rfl, hwrites⟩
    · exact hcov.moves h.increasing hm hclear
    · rw [hm.history] at hreset
      exact (h.saved (hreset.of_append hclear hwrites)).moves h.increasing hm hclear
  buffered := by rw [hm.buffer]; exact hb
  plans := by rw [hm.history]; exact hplans

/-- Quiet requests keep a world sound if the buffer stays a beginning of the log. -/
theorem quiet (h : w.Sound st) (hquiet : ∀ ev ∈ evs, ev.quiet st = true)
    (hm : w.Moves st (w.cursor st) b evs v) (hb : LogEntry.parseLines b <+: v.entries) :
    v.Sound st := by
  refine h.moves hm (fun ev hev => (Event.quiet_spec (hquiet ev hev)).1) ?_ (.inr ⟨rfl, ?_⟩) hb
  · exact h.plans.append fun ev hev => (Event.quiet_spec (hquiet ev hev)).2.2.2
  · exact fun ev hev => (Event.quiet_spec (hquiet ev hev)).2.1

theorem passes {alerts : List AlertRecord} (h : w.Sound st) (hp : w.Passes st alerts v) :
    v.Sound st := by
  obtain ⟨evs, hidle, -, hm⟩ := hp
  exact h.quiet (fun ev hev => (Event.idle_spec (hidle ev hev)).1) hm (h.buffered.trans hm.entries)

theorem lists {lines : List String} (h : w.Sound st) (hl : w.Lists st lines v) : v.Sound st := by
  obtain ⟨-, text, hm⟩ := hl
  exact h.quiet (by simp [Event.quiet, Event.clears, Event.writes]) hm (h.buffered.trans hm.entries)

theorem refuses (h : w.Sound st) (hr : w.Refuses st v) : v.Sound st := by
  obtain ⟨e, hm⟩ := hr
  exact h.quiet (by simp [Event.quiet, Event.clears, Event.writes]) hm (h.buffered.trans hm.entries)

theorem stores (h : w.Sound st) (hst : st.Apart) (hs : w.Stores st b v)
    (hb : LogEntry.parseLines b <+: w.entries) : v.Sound st := by
  obtain ⟨bytes, hm⟩ := hs
  refine h.quiet ?_ hm (hb.trans hm.entries)
  simp [Event.quiet, Event.clears, Event.writes, Ne.symm hst]

theorem saves (h : w.Sound st) (hs : w.Saves st c v) (hc : w.Covers c) : v.Sound st := by
  obtain ⟨bytes, hm⟩ := hs
  refine h.moves hm (by simp [Event.clears]) (h.plans.append (by simp [Event.planned])) (.inl hc) ?_
  exact h.buffered.trans hm.entries

/-- A plan made for a beginning of the log, with a cursor that covers entries, leaves nothing out. -/
theorem plan {es : List LogEntry} (h : w.Sound st) (hes : es <+: w.entries) (hc : w.Covers c)
    (hm : w.Moves st (w.cursor st) (w.buffer st) [⟨.plan es (.make es c), ()⟩] v) : v.Sound st := by
  have hplans : PlansWhole (w.history ++ [⟨.plan es (.make es c), ()⟩]) := by
    refine h.plans.concat ?_
    intro es' p heq x hx
    obtain ⟨rfl, rfl⟩ : es = es' ∧ TailPlan.make es c = p := by simpa using heq
    exact hc.mem_todo_or_settled h.increasing hes hx
  refine h.moves hm (by simp [Event.clears]) hplans (.inr ⟨rfl, by simp [Event.writes]⟩) ?_
  exact h.buffered.trans hm.entries

theorem handled {u : TailPlan.Unseen} (h : w.Sound st)
    (hm : w.Moves st (w.cursor st) (w.buffer st) [⟨.handled u, ()⟩] v) : v.Sound st := by
  refine h.moves hm (by simp [Event.clears]) (h.plans.append (by simp [Event.planned]))
    (.inr ⟨rfl, by simp [Event.writes]⟩) ?_
  exact h.buffered.trans hm.entries

/-- Clearing the log keeps a world sound if nothing of the old log is left in the buffer. -/
theorem clears (h : w.Sound st) (hc : w.Clears st v)
    (hbuffer : LogEntry.parseLines (w.buffer st) = []) : v.Sound st := by
  obtain ⟨text, hhistory⟩ := hc.history
  refine ⟨?_, ?_, ?_, ?_⟩
  · rw [hc.entries]
    exact ⟨.nil, by simp⟩
  · intro hreset
    rw [hhistory] at hreset
    exact absurd hreset (not_resetSaved_of_clears rfl)
  · rw [hc.buffer, hbuffer]
    exact List.nil_prefix
  · rw [hhistory]
    exact h.plans.append (by simp [Event.planned])

theorem checks {ρ : Rules} {cleared : Bool} (h : w.Sound st) (htidy : ρ.Tidy st)
    (hc : w.Checks ρ st v cleared) : v.Sound st := by
  cases hc with
  | passes hp => exact h.passes hp
  | refuses hp hr => exact (h.passes hp).refuses hr
  | clears hp hadmits hclears => exact (h.passes hp).clears hclears (htidy _ _ hadmits)

end Sound
end World

namespace LogSensor
open World

/-- The world is sound, and the cursor in memory covers entries. -/
structure Sound (s : LogSensor) (w : World) : Prop where
  apart : s.store.Apart
  world : w.Sound s.store
  covers : w.Covers s.cursor

namespace Sound

variable {s : LogSensor} {w v : World} {evs : List Event} {b : List String} {c : UInt64}

theorem of_moves (h : s.Sound w) (hv : v.Sound s.store) (hm : w.Moves s.store c b evs v)
    (hclear : ∀ ev ∈ evs, ev.clears = false) : s.Sound v :=
  ⟨h.apart, hv, h.covers.moves h.world.increasing hm hclear⟩

theorem passes {alerts : List AlertRecord} (h : s.Sound w) (hp : w.Passes s.store alerts v) :
    s.Sound v := by
  have hv := h.world.passes hp
  obtain ⟨evs, hidle, -, hm⟩ := hp
  exact h.of_moves hv hm fun ev hev => (Event.quiet_spec (Event.idle_spec (hidle ev hev)).1).1

theorem saves (h : s.Sound w) (hs : w.Saves s.store s.cursor v) : s.Sound v := by
  have hv := h.world.saves hs h.covers
  obtain ⟨bytes, hm⟩ := hs
  exact h.of_moves hv hm (by simp [Event.clears])

theorem stores (h : s.Sound w) (hs : w.Stores s.store b v)
    (hb : LogEntry.parseLines b <+: w.entries) : s.Sound v := by
  have hv := h.world.stores h.apart hs hb
  obtain ⟨bytes, hm⟩ := hs
  exact h.of_moves hv hm (by simp [Event.clears])

theorem lists {lines : List String} (h : s.Sound w) (hl : w.Lists s.store lines v) : s.Sound v := by
  have hv := h.world.lists hl
  obtain ⟨-, text, hm⟩ := hl
  exact h.of_moves hv hm (by simp [Event.clears])

theorem plan {es : List LogEntry} (h : s.Sound w) (hes : es <+: w.entries)
    (hm : w.Moves s.store (w.cursor s.store) (w.buffer s.store)
      [⟨.plan es (.make es s.cursor), ()⟩] v) : s.Sound v :=
  h.of_moves (h.world.plan hes h.covers hm) hm (by simp [Event.clears])

theorem handled {u : TailPlan.Unseen} (h : s.Sound w)
    (hm : w.Moves s.store (w.cursor s.store) (w.buffer s.store) [⟨.handled u, ()⟩] v) : s.Sound v :=
  h.of_moves (h.world.handled hm) hm (by simp [Event.clears])

theorem fetches {lines : List String} (h : s.Sound w) (hf : w.Fetches s.store lines v) :
    s.Sound v := by
  obtain ⟨-, t, u, hp, hl, hv⟩ := hf
  have hu : s.Sound u := (h.passes hp).lists hl
  rcases hv with hp' | hs
  · exact hu.passes hp'
  · exact hu.stores hs (hl.1 ▸ List.prefix_refl _)

/-- Committing keeps a sensor sound that has the next cursor in memory. -/
theorem commits {next : Option UInt64} (h : s.Sound w) (hc : w.Commits s.store next v)
    (hnext : ∀ c, next = some c → c = s.cursor) : s.Sound v := by
  obtain ⟨t, ht, hv⟩ := hc
  have hsound : s.Sound t := by
    rcases ht with hp | ⟨c, heq, hs⟩
    · exact h.passes hp
    · rw [hnext c heq] at hs
      exact h.saves hs
  rcases hv with hp | hs
  · exact hsound.passes hp
  · exact hsound.stores hs List.nil_prefix

/-- A plan for a beginning of the log, once handled, lets the cursor move behind it. -/
theorem covers_next {es : List LogEntry} (h : s.Sound w) (hes : es <+: w.entries)
    (hall : ∀ x ∈ es, x ∈ w.settled) :
    w.Covers ((TailPlan.make es s.cursor).nextCursor.getD s.cursor) := by
  cases hnext : (TailPlan.make es s.cursor).nextCursor with
  | none => exact h.covers
  | some index =>
    obtain ⟨e, he, rfl⟩ := TailPlan.nextCursor_eq_some hnext
    refine ⟨.inr ⟨e, hes.subset he, rfl⟩, ?_⟩
    intro x hx hle
    exact hall x (h.world.increasing.mem_of_le hes he hx hle)

/-- A check that does not clear the log keeps a sensor sound. -/
theorem unchecked {ρ : Rules} (h : s.Sound w) (htidy : ρ.Tidy s.store)
    (hc : w.Checks ρ s.store v false) : s.Sound v := by
  have hv := h.world.checks htidy hc
  cases hc with
  | passes hp => exact h.passes hp
  | refuses hp hr =>
    obtain ⟨e, hm⟩ := hr
    exact (h.passes hp).of_moves hv hm (by simp [Event.clears])

end Sound
end LogSensor
end HealthAgent
