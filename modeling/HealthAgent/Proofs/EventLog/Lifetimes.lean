import HealthAgent.Proofs.EventLog.Start
import HealthAgent.Proofs.EventLog.Upkeep
/-!
# Processes that come and go

A machine is a world in which at most one sensor runs. The sensor can be started, run a cycle and
stop; a start or a cycle may be cut short anywhere, as by a crash. What a crash leaves is the world.

The next start trusts the cursor file. That is right unless the log was cleared and the file has not
been reset since, which `World.Reset` excludes.

Results:
* `Machine.Sound.step`: whatever happens, the machine stays sound.
-/
namespace HealthAgent
open Program World

/-- A world and the sensor that runs in it. -/
structure Machine where
  sensor : Option LogSensor
  world : World

/-- The cursor file does not stem from a log that has been cleared. -/
def World.Reset (st : LogStore) (w : World) : Prop := w.cursor st = 0 ∨ ResetSaved st w.history

namespace Machine

/-- What can happen to a machine, with the state files in a folder. A sensor is only started in a
world of `starts`. -/
inductive Step (ρ : Rules) (starts : World → Prop) (folder : String) : Machine → Machine → Prop
  | drift {o : Option LogSensor} {w v : World} (drifts : ρ.drifts w v) :
      Step ρ starts folder ⟨o, w⟩ ⟨o, v⟩
  | start (config : LogConfig) (context : AlertContext) (zone : Calendar.Zone) {w v : World}
      {r : Option (Except StartError LogSensor)} (may : starts w)
      (runs : Runs ρ.Step (acts (LogSensor.start folder config context zone)) w r v) :
      Step ρ starts folder ⟨none, w⟩ ⟨r.bind Except.toOption, v⟩
  | poll (now : Nat) {s : LogSensor} {w v : World} {r : Option (Outcome × LogSensor)}
      (runs : Runs ρ.Step (s.pollActs now) w r v) :
      Step ρ starts folder ⟨some s, w⟩ ⟨r.map Prod.snd, v⟩
  | stop {s : LogSensor} {w : World} : Step ρ starts folder ⟨some s, w⟩ ⟨none, w⟩

/-- The machines that can come about from a folder without state files. -/
inductive Reachable (ρ : Rules) (starts : World → Prop) (folder : String) : Machine → Prop
  | init {w : World} (cursor : w.files (LogStore.inFolder folder).cursorPath = none)
      (pending : w.files (LogStore.inFolder folder).pendingPath = none) (history : w.history = [])
      (increasing : Increasing w.entries) : Reachable ρ starts folder ⟨none, w⟩
  | step {m m' : Machine} (before : Reachable ρ starts folder m)
      (step : Step ρ starts folder m m') : Reachable ρ starts folder m'

/-- The world is sound, and so is the sensor that runs in it. -/
structure Sound (folder : String) (m : Machine) : Prop where
  world : m.world.Sound (.inFolder folder)
  sensor : ∀ s, m.sensor = some s → s.store = .inFolder folder ∧ s.Sound m.world

end Machine

/-! ## Starts -/

theorem World.Opens.sound {st : LogStore} (hst : st.Apart) {w v : World} (ho : w.Opens st v)
    (h : w.Sound st) : v.Sound st := by
  induction ho with
  | refl => exact h
  | passes _ hp ih => exact ih.passes hp
  | saves _ _ hs ih => exact ih.saves hs (covers_zero ih.increasing)
  | stores _ _ hs ih => exact ih.stores hst hs List.nil_prefix

theorem World.Opens.reset {st : LogStore} {w v : World} (ho : w.Opens st v) (h : w.Reset st) :
    v.Reset st := by
  induction ho with
  | refl => exact h
  | passes _ hp ih =>
    obtain ⟨evs, hidle, -, hm⟩ := hp
    unfold Reset
    rw [hm.cursor, hm.history]
    refine ih.imp_right fun hs => hs.append ?_
    exact fun ev hev => (Event.quiet_spec (Event.idle_spec (hidle ev hev)).1).1
  | saves _ _ hs ih =>
    obtain ⟨bytes, hm⟩ := hs
    exact .inl hm.cursor
  | stores _ _ hs ih =>
    obtain ⟨bytes, hm⟩ := hs
    unfold Reset
    rw [hm.cursor, hm.history]
    exact ih.imp_right fun hs => hs.append (by simp [Event.clears])

theorem World.Sound.covers {st : LogStore} {w : World} (h : w.Sound st) (hreset : w.Reset st) :
    w.Covers (w.cursor st) := by
  rcases hreset with hzero | hsaved
  · rw [hzero]
    exact covers_zero h.increasing
  · exact h.saved hsaved

/-! ## Machines stay sound -/

namespace Machine.Sound

variable {ρ : Rules} {folder : String}

theorem init {w : World} (hpending : w.files (LogStore.inFolder folder).pendingPath = none)
    (hcursor : w.files (LogStore.inFolder folder).cursorPath = none) (hhistory : w.history = [])
    (hinc : Increasing w.entries) : Sound folder ⟨none, w⟩ := by
  have hworld : w.Sound (.inFolder folder) := by
    refine ⟨hinc, ?_, ?_, ?_⟩
    · intro _
      simp only [World.cursor, hcursor, Option.bind_none]
      exact covers_zero hinc
    · simp only [World.buffer, hpending, Option.bind_none]
      exact List.nil_prefix
    · intro before es p hpre
      rw [hhistory] at hpre
      simp at hpre
  exact ⟨hworld, fun s hs => by cases hs⟩

/-- Whatever happens, the machine stays sound. -/
theorem step (hρ : ρ.Orderly) (htidy : ρ.Tidy (.inFolder folder)) {starts : World → Prop}
    {m m' : Machine} (hstarts : starts m.world → m.world.Reset (.inFolder folder))
    (h : Sound folder m) (hstep : Step ρ starts folder m m') : Sound folder m' := by
  obtain ⟨hworld, hsensor⟩ := h
  cases hstep with
  | drift hdrift =>
    have hm := (hρ _ _ hdrift).moves (.inFolder folder)
    have hsound := hworld.quiet (by simp) hm (hworld.buffered.trans hm.entries)
    refine ⟨hsound, ?_⟩
    intro s hs
    obtain ⟨hstore, hsound'⟩ := hsensor s hs
    rw [← hstore] at hm hsound
    exact ⟨hstore, hsound'.of_moves hsound hm (by simp)⟩
  | start config context zone may runs =>
    obtain ⟨hopens, hstarted⟩ := ensures_start hρ folder config context zone _ _ _ runs
    have hsound := hopens.sound (LogStore.inFolder_apart folder) hworld
    have hreset := hopens.reset (hstarts may)
    refine ⟨hsound, ?_⟩
    intro s hs
    obtain ⟨r, hr, hok⟩ := Option.bind_eq_some_iff.1 hs
    cases r with
    | error e => cases hok
    | ok s' =>
      cases hok
      obtain ⟨hstore, hcursor⟩ := (hstarted _ hr).2 s rfl
      refine ⟨hstore, ⟨?_, ?_, ?_⟩⟩
      · rw [hstore]
        exact LogStore.inFolder_apart folder
      · rw [hstore]
        exact hsound
      · rcases hcursor with heq | ⟨hzero, -⟩
        · rw [heq, hstore]
          exact hsound.covers hreset
        · rw [hzero]
          exact covers_zero hsound.increasing
  | poll now runs =>
    rename_i s w v r
    obtain ⟨hstore, hs⟩ := hsensor s rfl
    rw [← hstore] at htidy
    obtain ⟨hsound, hended⟩ := ensures_pollActs hρ s now w hs htidy _ _ runs
    rw [hstore] at hsound
    refine ⟨hsound, ?_⟩
    intro s' hs'
    obtain ⟨⟨outcome, s''⟩, hr, rfl⟩ := Option.map_eq_some_iff.1 hs'
    obtain ⟨hs₁, hstore₁⟩ := hended _ hr
    exact ⟨hstore₁.trans hstore, hs₁⟩
  | stop => exact ⟨hworld, fun s hs => by cases hs⟩

end Machine.Sound

end HealthAgent
