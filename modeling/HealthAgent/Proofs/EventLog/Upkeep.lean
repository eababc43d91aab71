import HealthAgent.Proofs.EventLog.Coverage
/-!
# Cycles keep their world sound

Every part of a cycle keeps the world sound, wherever it is cut short, and the sensor that a completed
cycle leaves has a cursor that covers entries.

Results:
* `ensures_dispatchActs`: handling entries one by one; what is left to handle gets less.
* `ensures_processActs`: a cycle up to the check of the usage.
* `ensures_pollActs`: a whole cycle, if the log is cleared only with nothing left in the buffer.
-/
namespace HealthAgent
open Program World

section
variable {ρ : Rules} (hρ : ρ.Orderly)
include hρ

/-- Handling the entries `us` settles the entries `es`, if `us` are all of them that are unsettled. -/
theorem ensures_dispatchActs (s : LogSensor) (es : List LogEntry) (us : List TailPlan.Unseen)
    (w : World) (hsound : s.Sound w) (hes : ∀ x ∈ es, x ∈ us.map (·.entry) ∨ x ∈ w.settled) :
    Ensures ρ.Step (·.Sound s.store) (s.dispatchActs us) w fun r v =>
      s.Sound v ∧ w.entries <+: v.entries ∧ (r = .ok () → ∀ x ∈ es, x ∈ v.settled) := by
  induction us generalizing w with
  | nil =>
    refine .done hsound.world ⟨hsound, List.prefix_refl _, ?_⟩
    intro _ x hx
    rcases hes x hx with hmem | hmem
    · cases hmem
    · exact hmem
  | cons u us ih =>
    have hentry := ensures_dispatchEntry hρ s u w
    refine Ensures.bind (hentry.mono ?_ fun _ _ _ h => h) ?_
    · intro v hv
      obtain ⟨alerts, hp⟩ := hv
      exact (hsound.passes hp).world
    · intro r v hv
      rcases hv with ⟨rfl, alerts, -, hp⟩ | ⟨e, rfl, -, hp⟩
      · have hsound₁ := hsound.passes hp
        apply Ensures.call hsound₁.world
        intro a v₁ hstep
        have hm := hstep.told hρ s.store nofun
        have hsettled : v₁.settled = v.settled ++ [u.entry] := hm.settled (by simp [Event.clears])
        -- the entry leaves the ones to handle for the settled ones
        have hes₁ : ∀ x ∈ es, x ∈ us.map (·.entry) ∨ x ∈ v₁.settled := by
          intro x hx
          rw [hsettled]
          rcases hes x hx with hmem | hmem
          · rcases List.mem_cons.1 hmem with rfl | hmem
            · exact .inr (by simp)
            · exact .inl hmem
          · exact .inr (List.mem_append_left _ (hp.settled hmem))
        refine (ih v₁ (hsound₁.handled hm) hes₁).mono (fun _ h => h) ?_
        intro r v₂ _ h
        obtain ⟨hsound₂, hentries, hall⟩ := h
        exact ⟨hsound₂, (hp.extends.entries.trans hm.entries).trans hentries, hall⟩
      · have hsound₁ := hsound.passes hp
        refine .done hsound₁.world ⟨hsound₁, hp.extends.entries, ?_⟩
        intro h
        cases h

theorem ensures_handleActs (s : LogSensor) (lines : List String) (w : World) (hsound : s.Sound w)
    (hes : LogEntry.parseLines lines <+: w.entries) :
    Ensures ρ.Step (·.Sound s.store) (s.handleActs lines) w fun r v =>
      r.2.Sound v ∧ r.2.store = s.store := by
  unfold LogSensor.handleActs
  generalize LogEntry.parseLines lines = es at hes ⊢
  apply Ensures.call hsound.world
  intro a w₁ hstep
  have hm := hstep.told hρ s.store nofun
  have hsound₁ := hsound.plan hes hm
  have hes₁ : es <+: w₁.entries := hes.trans hm.entries
  have htodo : ∀ x ∈ es, x ∈ TailPlan.todo es s.cursor ∨ x ∈ w₁.settled :=
    fun x hx => hsound₁.covers.mem_todo_or_settled hsound₁.world.increasing hes₁ hx
  rw [bind_done]
  refine Ensures.bind (ensures_dispatchActs hρ s es _ w₁ hsound₁ htodo) ?_
  intro r v hv
  obtain ⟨hsound₂, hentries, hall⟩ := hv
  cases r with
  | error e => exact .done hsound₂.world ⟨hsound₂, rfl⟩
  | ok x =>
    have hcovers := hsound₂.covers_next (hes₁.trans hentries) (hall rfl)
    have hcommits : ∀ unsaved v', v.Commits s.store (TailPlan.make es s.cursor).nextCursor v' →
        LogSensor.Sound { s with
          cursor := (TailPlan.make es s.cursor).nextCursor.getD s.cursor
          cursorUnsaved := unsaved } v' := by
      intro unsaved v' hc
      refine LogSensor.Sound.commits ⟨hsound₂.apart, hsound₂.world, hcovers⟩ hc ?_
      intro c heq
      rw [heq, Option.getD_some]
    have hcommit := ensures_commit hρ s hsound.apart (.make es s.cursor) v
    refine Ensures.bind (hcommit.mono (fun v' hc => (hcommits false v' hc).world) fun _ _ _ h => h) ?_
    intro s' v' hv'
    obtain ⟨⟨unsaved, rfl⟩, hc⟩ := hv'
    have hsound₃ := hcommits unsaved v' hc
    exact .done hsound₃.world ⟨hsound₃, rfl⟩

/-- A cycle up to the check of the usage keeps its world sound. -/
theorem ensures_processActs (s : LogSensor) (w : World) (hsound : s.Sound w) :
    Ensures ρ.Step (·.Sound s.store) s.processActs w fun r v =>
      r.2.Sound v ∧ r.2.store = s.store := by
  have hstart : ∀ v, w.Passes s.store [] v ∨ w.Saves s.store s.cursor v → s.Sound v := by
    intro v hv
    rcases hv with hp | hs
    · exact hsound.passes hp
    · exact hsound.saves hs
  have hretry := ensures_retryCursor hρ s hsound.apart w
  refine Ensures.bind (hretry.mono (fun v hv => (hstart v hv).world) fun _ _ _ h => h) ?_
  intro s' v hv
  obtain ⟨⟨unsaved, rfl⟩, hv⟩ := hv
  obtain ⟨hapart, hworld, hcovers⟩ := hstart v hv
  have hsound₁ : LogSensor.Sound { s with cursorUnsaved := unsaved } v := ⟨hapart, hworld, hcovers⟩
  have hload := ensures_loadBuffer hρ { s with cursorUnsaved := unsaved } hapart v
  refine Ensures.bind (hload.mono ?_ fun _ _ _ h => h) ?_
  · intro v' hv'
    rcases hv' with hp | ⟨lines, hf⟩
    · exact (hsound₁.passes hp).world
    · exact (hsound₁.fetches hf).world
  intro r v' h
  cases h with
  | unreadable hp => exact .done (hsound₁.passes hp).world ⟨hsound₁.passes hp, rfl⟩
  | unlisted e hp => exact .done (hsound₁.passes hp).world ⟨hsound₁.passes hp, rfl⟩
  | recovered lines left nonempty hp =>
    refine ensures_handleActs hρ _ lines v' (hsound₁.passes hp) ?_
    rw [← left]
    exact hsound₁.world.buffered.trans hp.extends.entries
  | fetched lines hf => exact ensures_handleActs hρ _ lines v' (hsound₁.fetches hf) hf.entries.2

/-- A whole cycle keeps its world sound. -/
theorem ensures_pollActs (s : LogSensor) (now : Nat) (w : World) (hsound : s.Sound w)
    (htidy : ρ.Tidy s.store) :
    Ensures ρ.Step (·.Sound s.store) (s.pollActs now) w fun r v =>
      r.2.Sound v ∧ r.2.store = s.store := by
  refine Ensures.bind (ensures_processActs hρ s w hsound) ?_
  intro r v h
  obtain ⟨r, s₁⟩ := r
  obtain ⟨hsound₁, hstore⟩ := h
  simp only at hstore hsound₁
  rw [← hstore] at htidy ⊢
  cases r with
  | error e => exact .done hsound₁.world ⟨hsound₁, rfl⟩
  | ok x =>
    have hreset : ∀ (usage : UsageMonitor) (unsaved : Bool) (u v' : World),
        v.Checks ρ s₁.store u true → (u.Passes s₁.store [] v' ∨ u.Saves s₁.store 0 v') →
        LogSensor.Sound { s₁ with usage, cursor := 0, cursorUnsaved := unsaved } v' := by
      intro usage unsaved u v' hc hv'
      have hu := hsound₁.world.checks htidy hc
      have hsound₂ : LogSensor.Sound { s₁ with usage, cursor := 0, cursorUnsaved := unsaved } u :=
        ⟨hsound₁.apart, hu, covers_zero hu.increasing⟩
      rcases hv' with hp | hs
      · exact hsound₂.passes hp
      · exact hsound₂.saves hs
    refine Ensures.bind ((ensures_checkUsage hρ s₁ hsound₁.apart now v).mono ?_ fun _ _ _ h => h) ?_
    · intro v' h
      rcases h with ⟨cleared, hc⟩ | ⟨u, hc, hv'⟩
      · exact hsound₁.world.checks htidy hc
      · exact (hreset s₁.usage false u v' hc hv').world
    · intro r v' h
      obtain ⟨r, s₂⟩ := r
      rcases h with ⟨usage, rfl, hc⟩ | ⟨usage, unsaved, u, rfl, hc, hv'⟩
      · have hsound₂ := hsound₁.unchecked htidy hc
        exact .done hsound₂.world ⟨⟨hsound₂.apart, hsound₂.world, hsound₂.covers⟩, rfl⟩
      · have hsound₂ := hreset usage unsaved u v' hc hv'
        exact .done hsound₂.world ⟨hsound₂, rfl⟩

end
end HealthAgent
