import HealthAgent.Proofs.Enclosure.Restarts
/-!
# The course of an enclosure's sensor

A sensor runs cycles one after the other. The service may fail, records may tell no status, and an
attempt to save the map may fail; the file then stays as it is. `Weather` settles all that is left
to chance, also which attempts fail.

Whatever the map holds when a course begins, and whatever fails in it, the sensor remembers a unit
after a cycle exactly if the unit was not well when it was listed last. The record tells that
health, and the last alert that was raised for the unit, unless none has been: then the unit is as
it was at the beginning of the course, and so is its record.

Results:
* `Weather.course_tookIn`: what a course of cycles does.
* `FaultMap.Remembers.last`: a record read off from what is known of a unit.
* `memory_tells_last_health`: what a sensor remembers of a unit after a course of cycles.
-/
namespace HealthAgent
open Program State

/-- What is left to chance, and how attempts to replace a file end, by the number of the request. -/
structure Weather extends Chance where
  replaced : Nat → WriteAnswer

namespace Weather

/-- Answers a request, as `Chance.answer` does, but for attempts to replace a file. -/
def answer (w : Weather) (given : Except SourceError (List Json)) :
    (r : Request) → StateM (Site × Nat) r.Answer
  | .file (.replace path bytes) => fun (site, n) =>
    (w.replaced n, if w.replaced n = .written then site.write path bytes else site, n + 1)
  | r => w.toChance.answer given r

theorem attempt_answer (w : Weather) (given : Except SourceError (List Json)) (r : Request)
    (t : Site × Nat) :
    t.1.Attempt False given r (w.answer given r t).1 (w.answer given r t).2.1 := by
  cases r with
  | file r =>
    cases r with
    | replace path bytes =>
      by_cases h : w.replaced t.2 = .written
      · exact .inl ⟨h, if_pos h⟩
      · exact .inr ⟨id, h, if_neg h⟩
    | _ => exact (w.toChance.step_answer given (.file _) t).attempt
  | _ => exact (w.toChance.step_answer given _ t).attempt

/-- Runs cycles of a sensor, one for each thing that the service gives. -/
def course (w : Weather) : FruSensor → List (Except SourceError (List Json)) →
    StateM (Site × Nat) FruSensor
  | s, [] => return s
  | s, given :: rest => do
    let (_, s) ← s.poll.run (w.answer given)
    course w s rest

theorem course_tookIn (w : Weather) (s : FruSensor) (givens : List (Except SourceError (List Json)))
    (t : Site × Nat) :
    FruSensor.TookIn False s (givens.flatMap FruSensor.decoded) t.1 (w.course s givens t).1
      (w.course s givens t).2.1 := by
  induction givens generalizing s t with
  | nil => exact .refl False s t.1
  | cons given rest ih =>
    have hpoll : _ ∧ FruSensor.TookIn False s (FruSensor.decoded given) t.1 _ _ :=
      (FruSensor.ensures_poll s).run (w.attempt_answer given)
    rw [List.flatMap_cons]
    exact hpoll.2.append (ih _ _)

end Weather

/-! ## What is remembered after a course -/

/-- A record read off from what is known of a unit. -/
theorem FaultMap.Remembers.last {initial entry : Option FaultRecord} {id : String} {health : Health}
    {raised : Option AlertKind} (h : Remembers initial id (some health) raised entry) :
    (entry.isSome = true ↔ health ≠ .ok) ∧
      ∀ r, entry = some r → r.health = health ∧
        ((raised = none ∧ entry = initial) ∨
          ∃ kind, raised = some kind ∧ (kind = .fault ∨ kind = .missing) ∧
            r.resourceId = id ∧ r.kind = kind) := by
  cases h with
  | well raised => simp
  | silent r hsame hill => simp [hsame, hill]
  | raised health kind hill hkind => simp [hill, hkind]

def AlertRecord.kindsFor (id : String) (alerts : List AlertRecord) : List AlertKind :=
  (alerts.filter (·.info.resourceId = id)).map (·.kind)

theorem AlertRecord.kindsFor_of_changes {alerts : List AlertRecord}
    {changes : List (FruStatus × AlertKind)} {kind : FruKind} {context : AlertContext}
    (h : alerts.map timeless = changes.map (FruSensor.alertFor kind context)) (id : String) :
    kindsFor id alerts = FaultMap.kindsFor id changes := by
  have htimeless : kindsFor id (alerts.map timeless) = kindsFor id alerts := by
    rw [kindsFor, List.filter_map, List.map_map]
    rfl
  rw [← htimeless, h, kindsFor, List.filter_map, List.map_map]
  rfl

/-- **The memory tells the last health.** After any course of cycles, whatever the service gives in
it and whichever attempts to save fail, and for any unit: if the unit was not listed, its record is
the first one; if it was, there is a record exactly if the unit was not well when it was listed
last. The record tells this health. If no alert was raised for the unit in the course, it is still
the first record; otherwise it is the unit's own, with the kind of the last alert raised for it, a
fault or an absence. -/
theorem memory_tells_last_health (w : Weather) (s : FruSensor) (site : Site)
    (givens : List (Except SourceError (List Json))) (id : String) :
    let after := w.course s givens (site, 0)
    let listed := (givens.flatMap FruSensor.decoded).filter (·.resourceId = id)
    let raised := AlertRecord.kindsFor id (after.2.1.alerts.drop site.alerts.length)
    let entry := after.1.faults.get? id
    (listed = [] → entry = s.faults.get? id) ∧
      ∀ last, listed.getLast? = some last →
        (entry.isSome = true ↔ last.health ≠ .ok) ∧
          ∀ r, entry = some r → r.health = last.health ∧
            ((raised = [] ∧ entry = s.faults.get? id) ∨
              ∃ kind, raised.getLast? = some kind ∧ (kind = .fault ∨ kind = .missing) ∧
                r.resourceId = id ∧ r.kind = kind) := by
  intro after listed raised entry
  have htaken := w.course_tookIn s givens (site, 0)
  have hraised : raised = FaultMap.kindsFor id
      (s.faults.changes (givens.flatMap FruSensor.decoded)) :=
    AlertRecord.kindsFor_of_changes htaken.handed id
  have hentry : entry = (s.faults.observeAll (givens.flatMap FruSensor.decoded)).get? id :=
    congrArg (·.faults.get? id) htaken.sensor
  have hunseen : FaultMap.Remembers (s.faults.get? id) id none none (s.faults.get? id) := .unseen
  have hknown := hunseen.observeAll (givens.flatMap FruSensor.decoded)
  rw [← hraised, ← hentry, Option.or_none, Option.or_none] at hknown
  constructor
  · intro hnone
    rw [hentry]
    exact FaultMap.observeAll_of_absent (by simpa using List.filter_eq_nil_iff.1 hnone)
  · intro last hlast
    change FaultMap.Remembers _ id (listed.getLast?.map _) _ _ at hknown
    rw [hlast] at hknown
    obtain ⟨hsome, hrecord⟩ := hknown.last
    refine ⟨hsome, fun r hr => ?_⟩
    rw [← List.getLast?_eq_none_iff]
    exact hrecord r hr

end HealthAgent
