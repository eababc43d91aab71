import HealthAgent.Proofs.EventLog.Parts
/-!
# What a start does

A start opens the store, which may write 0 as the cursor and may empty the buffer, and takes the
cursor of the file, or 0 if it cannot be read. What it writes is what the files read as already.

Results:
* `Opens.keeps`: opening a store changes neither its cursor nor its buffer.
* `ensures_openIn`, `ensures_start`: what opening the store and starting the sensor do.
-/
namespace HealthAgent
open Program

namespace World

/-- What the opening of a store does: it may write 0 as the cursor and may empty the buffer, if they
read so already. -/
inductive Opens (st : LogStore) (w : World) : World → Prop
  | refl : Opens st w w
  | passes {u v : World} (opens : Opens st w u) (passes : u.Passes st [] v) : Opens st w v
  | saves {u v : World} (opens : Opens st w u) (zero : u.cursor st = 0) (saves : u.Saves st 0 v) :
      Opens st w v
  | stores {u v : World} (opens : Opens st w u) (empty : u.buffer st = [])
      (stores : u.Stores st [] v) : Opens st w v

/-- Opening a store changes neither its cursor nor its buffer. -/
theorem Opens.keeps {st : LogStore} {w v : World} (h : w.Opens st v) :
    v.cursor st = w.cursor st ∧ v.buffer st = w.buffer st := by
  induction h with
  | refl => exact ⟨rfl, rfl⟩
  | passes _ hp ih => exact ⟨hp.cursor.trans ih.1, hp.buffer.trans ih.2⟩
  | saves _ hzero hs ih =>
    obtain ⟨bytes, hm⟩ := hs
    exact ⟨(hm.cursor.trans hzero.symm).trans ih.1, hm.buffer.trans ih.2⟩
  | stores _ hempty hs ih =>
    obtain ⟨bytes, hm⟩ := hs
    exact ⟨hm.cursor.trans ih.1, (hm.buffer.trans hempty.symm).trans ih.2⟩

end World

section
open World

variable {ρ : Rules} (hρ : ρ.Orderly)
include hρ

theorem ensures_loadTypes (st : LogStore) (ds : List Device) (m : SensorNumbers) (w : World) :
    Ensures ρ.Step (w.Passes st []) (acts (SensorNumbers.loadTypes ds m)) w fun _ v =>
      w.Passes st [] v := by
  induction ds generalizing m w with
  | nil => exact .done (.refl st w) (.refl st w)
  | cons d ds ih =>
    apply Ensures.call (.refl st w)
    intro a v hstep
    have hp := hstep.passes hρ st rfl rfl
    have hrest : ∀ m, Ensures ρ.Step (w.Passes st []) (acts (SensorNumbers.loadTypes ds m)) v
        fun _ v => w.Passes st [] v :=
      fun m => (ih m v).mono (fun _ h => hp.trans h) fun _ _ _ h => hp.trans h
    cases a with
    | ok listing => exact hrest _
    | error e =>
      simp only [bind_done]
      split
      · exact .done hp hp
      · exact hrest _

theorem ensures_storeCursor (st : LogStore) (w : World) :
    Ensures ρ.Step (w.Passes st []) (acts st.cursor) w fun r v =>
      w.Passes st [] v ∧ (∀ index, r = .ok index → index = w.cursor st) ∧
        ∀ e, r = .error e → w.cursor st = 0 ∨ ρ.Misses st.cursorPath := by
  apply Ensures.acts_bind (ensures_readText hρ st st.cursorPath w)
  rintro r v ⟨hp, htext, hunread⟩
  cases r with
  | error e =>
    refine .done hp ⟨hp, nofun, fun _ _ => ?_⟩
    rcases (hunread e rfl).2 with hmisses | hnone
    · exact .inr hmisses
    · rw [World.cursor, hnone]
      exact .inl rfl
  | ok text =>
    have hc : w.cursor st = (LogStore.parseCursor (text.getD "")).toOption.getD 0 := by
      rw [htext text rfl, World.cursor]
      cases (w.files st.cursorPath).bind String.fromUTF8? <;> rfl
    refine .done hp ⟨hp, ?_, ?_⟩
    · intro index h
      rw [hc]
      cases hparse : LogStore.parseCursor (text.getD "") with
      | error e => rw [hparse] at h; cases h
      | ok n => rw [hparse] at h; cases h; rfl
    · intro e h
      rw [hc]
      cases hparse : LogStore.parseCursor (text.getD "") with
      | error e => exact .inl rfl
      | ok n => rw [hparse] at h; cases h

theorem ensures_openPending (st : LogStore) (hst : st.Apart) {w v : World} (ho : w.Opens st v)
    (k : Except StoreError (Option String) → SensorProgram (Except StoreError LogStore))
    (herror : ∀ e, k (.error e) = .done (.error e))
    (hsome : ∀ text, k (.ok (some text)) = .done (.ok st))
    (hnone : k (.ok none) = st.clearPending.bind fun r => .done (r.map fun _ => st)) :
    Ensures ρ.Step (w.Opens st) (acts ((State.readText st.pendingPath).bind k)) v fun r v =>
      w.Opens st v ∧ ∀ st', r = .ok st' → st' = st := by
  apply Ensures.acts_bind ((ensures_readText hρ st st.pendingPath v).mono
    (fun _ h => ho.passes h) fun _ _ _ h => h)
  intro r v₁ h
  obtain ⟨hp, htext, -⟩ := h
  have hread := ho.passes hp
  rcases r with e | _ | text
  · rw [herror]
    exact .done hread ⟨hread, by simp⟩
  · rw [hnone]
    have hempty : v₁.buffer st = [] := by
      have hlines : v.buffer st =
          (((v.files st.pendingPath).bind String.fromUTF8?).getD "").writtenLines := by
        rw [World.buffer]
        cases (v.files st.pendingPath).bind String.fromUTF8? <;> rfl
      rw [hp.buffer, hlines, ← htext none rfl]
      rfl
    have hclear := ensures_replacePending hρ st hst "" v₁
    have hopens : ∀ v₂, v₁.Passes st [] v₂ ∨ v₁.Stores st [] v₂ → w.Opens st v₂ := by
      intro v₂ h
      rcases h with h | h
      · exact hread.passes h
      · exact hread.stores hempty h
    apply Ensures.acts_bind (hclear.mono hopens fun _ v₂ h _ => hopens v₂ h)
    intro r v₂ ho₂
    refine .done ho₂ ⟨ho₂, ?_⟩
    cases r <;> simp [Except.map, eq_comm]
  · rw [hsome]
    exact .done hread ⟨hread, by simp [eq_comm]⟩

theorem ensures_openIn (folder : String) (w : World) :
    Ensures ρ.Step (w.Opens (LogStore.inFolder folder)) (acts (LogStore.openIn folder)) w
      fun r v => w.Opens (LogStore.inFolder folder) v ∧
        ∀ st, r = .ok st → st = LogStore.inFolder folder := by
  have hst := LogStore.inFolder_apart folder
  unfold LogStore.openIn
  generalize LogStore.inFolder folder = st at hst ⊢
  have hfails : ∀ (e : StoreError) (v : World), w.Opens st v →
      Ensures ρ.Step (w.Opens st) (acts (.done (Except.error e))) v
        fun r v => w.Opens st v ∧ ∀ st', r = .ok st' → st' = st :=
    fun e v h => .done h ⟨h, by simp⟩
  apply Ensures.call .refl
  intro made v hstep
  have hmade := Opens.refl.passes (hstep.passes hρ st rfl rfl)
  cases made with
  | false => exact hfails _ v hmade
  | true =>
    apply Ensures.acts_bind ((ensures_readText hρ st st.cursorPath v).mono
      (fun _ h => hmade.passes h) fun _ _ _ h => h)
    intro r v₁ h
    obtain ⟨hp, htext, -⟩ := h
    have hread := hmade.passes hp
    cases r with
    | error e => exact hfails e v₁ hread
    | ok text =>
      simp only
      split
      · rename_i hblank
        have hzero : v₁.cursor st = 0 := by
          have hparse := LogStore.parseCursor_of_blank hblank
          rw [htext text rfl] at hparse
          rw [hp.cursor, World.cursor]
          cases hfile : (v.files st.cursorPath).bind String.fromUTF8? with
          | none => rfl
          | some text' =>
            rw [hfile] at hparse
            exact congrArg (·.toOption.getD 0) hparse
        have hset := ensures_replaceText hρ st st.cursorPath (LogStore.cursorText 0) v₁
          fun v₂ hstep => hstep.saves hρ hst
        have hopens : ∀ v₂, v₁.Passes st [] v₂ ∨ v₁.Saves st 0 v₂ → w.Opens st v₂ := by
          intro v₂ h
          rcases h with h | h
          · exact hread.passes h
          · exact hread.saves hzero h
        apply Ensures.acts_bind (hset.mono hopens fun _ v₂ h _ => hopens v₂ h)
        intro wrote v₂ ho₂
        cases wrote with
        | error e => exact hfails e v₂ ho₂
        | ok x =>
          exact ensures_openPending hρ st hst ho₂ _ (fun _ => rfl) (fun _ => rfl) rfl
      · exact ensures_openPending hρ st hst hread _ (fun _ => rfl) (fun _ => rfl) rfl

/-- A start opens the store and takes the cursor of the file, or 0. -/
theorem ensures_start (folder : String) (config : LogConfig) (context : AlertContext)
    (zone : Calendar.Zone) (w : World) :
    Ensures ρ.Step (w.Opens (LogStore.inFolder folder))
      (acts (LogSensor.start folder config context zone)) w fun r v =>
        w.Opens (LogStore.inFolder folder) v ∧ ∀ s, r = .ok s → s.store = LogStore.inFolder folder ∧
          (s.cursor = v.cursor s.store ∨ s.cursor = 0 ∧ ρ.Misses s.store.cursorPath) := by
  apply Ensures.acts_bind (ensures_openIn hρ folder w)
  rintro r v ⟨ho, hr⟩
  cases r with
  | error e => exact .done ho ⟨ho, fun _ h => by cases h⟩
  | ok st =>
    have hst := hr st rfl
    rw [← hst] at ho ⊢
    apply Ensures.acts_bind ((ensures_storeCursor hρ st v).mono (fun _ h => ho.passes h)
      fun _ _ _ h => h)
    rintro index v₁ ⟨hp₁, hindex, hcorrupt⟩
    have ho₁ := ho.passes hp₁
    apply Ensures.acts_bind ((ensures_loadTypes hρ st _ _ v₁).mono (fun _ h => ho₁.passes h)
      fun _ _ _ h => h)
    rintro numbers v₂ hp₂
    have ho₂ := ho₁.passes hp₂
    cases numbers with
    | error e => exact .done ho₂ ⟨ho₂, fun _ h => by cases h⟩
    | ok numbers =>
      refine .done ho₂ ⟨ho₂, ?_⟩
      rintro s ⟨⟩
      refine ⟨rfl, ?_⟩
      cases index with
      | error e =>
        rcases hcorrupt e rfl with hzero | hmisses
        · exact .inl (by rw [hp₂.cursor, hp₁.cursor, hzero])
        · exact .inr ⟨rfl, hmisses⟩
      | ok index => exact .inl (by rw [hindex index rfl, hp₂.cursor, hp₁.cursor])

end
end HealthAgent
