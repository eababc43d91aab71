import HealthAgent.Proofs.Enclosure.Course
/-!
# Fault maps that could not be saved

An attempt to save the map may fail. The file then holds what was remembered earlier, and the sensor
makes no note of it: the next attempt comes with the next change, whenever that is. So a cycle in
which files can be written brings the file up to date if it tells a change. A cycle without a change
leaves it as it is; it then holds what is remembered only if it did so before.

Results:
* `Site.Holds.unique`: a file holds one map.
* `FruSensor.TookIn.held`: what the file holds after statuses were taken in, whichever attempts to
  save have failed.
* `FruSensor.TookIn.kept_iff`: when the file holds what is remembered, if no attempt fails.
* `kept_after_cycle_iff`: when a cycle makes up for the failures before it.
-/
namespace HealthAgent
open State

theorem Site.Holds.unique {site : Site} {path : String} {m m' : FaultMap} (h : site.Holds path m)
    (h' : site.Holds path m') : m = m' :=
  Except.ok.inj (h.memory_eq.symm.trans h'.memory_eq)

/-- What the file tells of a unit is what the sensor remembers of it. -/
theorem FruSensor.Kept.entry {s : FruSensor} {site : Site} (h : s.Kept site) (id : String) :
    (site.memory s.store.path).toOption.bind (·.get? id) = s.faults.get? id := by
  have hmemory : site.memory s.store.path = .ok s.faults := Site.Holds.memory_eq h
  rw [hmemory]
  rfl

namespace FruSensor.TookIn

variable {writable : Prop} {s s' : FruSensor} {statuses : List FruStatus} {site site' : Site}

theorem held (h : TookIn writable s statuses site s' site') (hkept : s.Kept site) :
    ∃ seen, seen <+: statuses ∧ site'.Holds s.store.path (s.faults.observeAll seen) := by
  rcases h.past with hsame | hseen
  · exact ⟨[], List.nil_prefix, hkept.of_files hsame⟩
  · exact hseen

theorem handed_ne_nil (h : TookIn writable s statuses site s' site') :
    site'.alerts.drop site.alerts.length ≠ [] ↔ s.faults.changes statuses ≠ [] := by
  have hlength := congrArg List.length h.handed
  simp only [List.length_map] at hlength
  rw [← List.length_pos_iff, hlength, List.length_pos_iff]

/-- If no attempt to save fails, the file is up to date from the first change on, and else if it was
so before. -/
theorem kept_iff (h : TookIn True s statuses site s' site') {m : FaultMap}
    (hheld : site.Holds s.store.path m) :
    s'.Kept site' ↔ s.faults.changes statuses ≠ [] ∨ m = s.faults := by
  obtain ⟨rfl, -, -, hquiet, hsaved⟩ := h
  by_cases hnone : s.faults.changes statuses = []
  · rw [FaultMap.observeAll_of_quiet hnone]
    have hheld' := hheld.of_files (hquiet hnone)
    constructor
    · intro hkept
      exact .inr (hheld'.unique hkept)
    · rintro (hsome | rfl)
      · exact absurd hnone hsome
      · exact hheld'
  · exact iff_of_true (hsaved trivial hnone) (.inl hnone)

end FruSensor.TookIn

/-- **A failed save is made good with the next change.** A sensor whose file holds what it remembers
runs a course of cycles, whatever the service gives in it and whichever attempts to save fail, and
then a cycle over a snapshot in which no attempt fails. Before this cycle the file holds what was
remembered after some of the statuses of the course; after it the file holds what is remembered
exactly if the cycle has raised an alert or the file was up to date before. -/
theorem kept_after_cycle_iff (w : Weather) (c : Chance) {s : FruSensor} {site : Site}
    (hkept : s.Kept site) (givens : List (Except SourceError (List Json))) (records : List Json) :
    let before := w.course s givens (site, 0)
    let after := c.cycle before.1 (.ok records) before.2
    ∃ seen, seen <+: givens.flatMap FruSensor.decoded ∧
      before.2.1.Holds s.store.path (s.faults.observeAll seen) ∧
      (after.1.1.Kept after.2.1 ↔
        after.1.2.alerts ≠ [] ∨ s.faults.observeAll seen = before.1.faults) := by
  intro before after
  have hcourse : FruSensor.TookIn False s _ site before.1 before.2.1 :=
    w.course_tookIn s givens (site, 0)
  have hcycle : FruSensor.TookIn True before.1 _ before.2.1 after.1.1 after.2.1 :=
    (c.cycle_tookIn before.1 (.ok records) before.2).2
  obtain ⟨seen, hseen, hheld⟩ := hcourse.held hkept
  have hpath : before.1.store = s.store := by rw [hcourse.sensor]
  have halerts : after.1.2.alerts ≠ [] ↔ _ := hcycle.handed_ne_nil
  refine ⟨seen, hseen, hheld, ?_⟩
  rw [halerts]
  exact hcycle.kept_iff (hpath ▸ hheld)

namespace FruTrial

/-- Requests that are answered, but for attempts to replace a file: each of them fails. -/
def storm : Weather := { luck with replaced := fun _ => .refused }

/-- The sensor and its site after a cycle over `records` whose changes could not be saved. -/
def unsaved : FruSensor × Site × Nat := storm.course sensor [.ok records] (site, 0)

end FruTrial

open FruTrial in
/-- The end of a fault is saved, and with it an absence that could not be saved before. -/
theorem kept_after_cycle_with_change :
    let after := luck.cycle unsaved.1 (.ok [unit "0" "OK" "Operational"]) unsaved.2
    sensor.Kept site ∧ ¬unsaved.1.Kept unsaved.2.1 ∧ after.1.1.Kept after.2.1 ∧
      (after.1.1.faults.get? "1").map (·.kind) = some .missing := by
  intro after
  obtain ⟨seen, -, -, hiff⟩ :=
    kept_after_cycle_iff storm luck sensor_kept [.ok records] [unit "0" "OK" "Operational"]
  have htold : after.1.2.alerts.isEmpty = false := by decide +kernel
  have halerts : after.1.2.alerts ≠ [] := List.isEmpty_eq_false_iff.1 htold
  refine ⟨sensor_kept, fun hkept => ?_, hiff.2 (.inl halerts), by decide +kernel⟩
  exact absurd (hkept.entry "0") (by decide +kernel)

open FruTrial in
/-- A fault that could not be saved is not saved in a cycle that finds it unchanged: the file does
not tell of it, though it could have been written. -/
theorem unsaved_fault_stays_unsaved :
    let after := luck.cycle unsaved.1 (.ok records) unsaved.2
    sensor.Kept site ∧ ¬after.1.1.Kept after.2.1 := by
  refine ⟨sensor_kept, fun hkept => ?_⟩
  exact absurd (hkept.entry "0") (by decide +kernel)

end HealthAgent
