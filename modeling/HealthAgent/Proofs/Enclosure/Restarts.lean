import HealthAgent.Proofs.Enclosure.Cycle
/-!
# Restarts of an enclosure's sensor

A sensor lives through turns: in some it runs a cycle, in others it is dropped and started anew in
the same folder. Everything that it asks for is answered: files can be read and replaced, the
service gives what the turn says, and `Chance` settles the rest, the times, the salts and the word
of the receivers.

After every cycle the file holds what the sensor remembers, so a restart finds the memory that the
dropped sensor had and writes nothing. What a life reports is then a matter of its snapshots alone,
`told`, and this skips restarts.

Results:
* `start_of_kept`: a restart finds the sensor that was dropped.
* `Chance.cycle_tookIn`, `cycle_eq`: what a cycle does in which every file can be replaced.
* `life_told`: what a life reports and hands over is what its snapshots tell, from the map of the
  first file on.
* `restarts_unseen`: a life with restarts reports and hands over what a life without them does.
-/
namespace HealthAgent
open Program

/-- What is left to chance in the answers to requests, by the number of the request. -/
structure Chance where
  time : Nat → String
  salt : Nat → String
  taken : Nat → Bool

/-- A turn in the life of a sensor. -/
inductive Turn where
  /-- A cycle, in which the service gives these records or fails. -/
  | poll (given : Except SourceError (List Json))
  /-- The sensor is dropped and started anew. -/
  | restart

def Turn.isPoll : Turn → Bool
  | poll _ => true
  | restart => false

namespace Chance

/-- Answers a request on a site where files can be used and the service gives `given`; the number of
requests so far is counted. The controller is never asked. -/
def answer (c : Chance) (given : Except SourceError (List Json)) :
    (r : Request) → StateM (Site × Nat) r.Answer
  | .records _ _ => fun (site, n) => (given, site, n + 1)
  | .file (.makeFolder _) => fun (site, n) => (true, site, n + 1)
  | .file (.load path) => fun (site, n) => (site.content path, site, n + 1)
  | .file (.replace path bytes) => fun (site, n) => (.written, site.write path bytes, n + 1)
  | .clock => fun (site, n) => (c.time n, site, n + 1)
  | .salt => fun (site, n) => (c.salt n, site, n + 1)
  | .deliver alert => fun (site, n) => (c.taken n, site.hand alert, n + 1)
  | .ipmi _ => fun (site, n) => (.ok "", site, n + 1)

theorem step_answer (c : Chance) (given : Except SourceError (List Json)) (r : Request)
    (t : Site × Nat) : Site.Step given t.1 r (c.answer given r t).1 (c.answer given r t).2.1 := by
  cases r with
  | file r => cases r <;> exact ⟨rfl, rfl⟩
  | records => exact ⟨rfl, rfl⟩
  | _ => rfl

def start (c : Chance) (kind : FruKind) (folder : String) (context : AlertContext) :
    StateM (Site × Nat) (Except StoreError FruSensor) :=
  (FruSensor.start kind folder context).run (c.answer (.ok []))

def cycle (c : Chance) (s : FruSensor) (given : Except SourceError (List Json)) :
    StateM (Site × Nat) (FruSensor × CycleReport) := do
  let (before, _) ← get
  let (outcome, s) ← s.poll.run (c.answer given)
  let (after, _) ← get
  return (s, ⟨outcome, s.faults, after.alerts.drop before.alerts.length⟩)

/-- What the cycles of a sensor report from here on; fails if a restart does. -/
def goOn (c : Chance) (kind : FruKind) (folder : String) (context : AlertContext) :
    FruSensor → List Turn → StateM (Site × Nat) (Except StoreError (List CycleReport))
  | _, [] => return .ok []
  | s, .poll given :: rest => do
    let (s, report) ← c.cycle s given
    return (← goOn c kind folder context s rest).map (report :: ·)
  | _, .restart :: rest => do
    match ← c.start kind folder context with
    | .error e => return .error e
    | .ok s => goOn c kind folder context s rest

/-- A life that starts on a site: what its cycles report, and the site after it. It fails if the
first start or a restart does. -/
def life (c : Chance) (kind : FruKind) (folder : String) (context : AlertContext) (site : Site)
    (turns : List Turn) : Except StoreError (List CycleReport) × Site :=
  let run : StateM (Site × Nat) (Except StoreError (List CycleReport)) := do
    match ← c.start kind folder context with
    | .error e => return .error e
    | .ok s => c.goOn kind folder context s turns
  let (reports, site, _) := run (site, 0)
  (reports, site)

end Chance

/-- What the snapshots of a life tell, from the remembered map on. -/
def told (kind : FruKind) (context : AlertContext) : FaultMap → List Turn → List CycleReport
  | _, [] => []
  | m, .poll given :: rest =>
    let report := FruSensor.report kind context m given
    report :: told kind context report.faults rest
  | m, .restart :: rest => told kind context m rest

theorem told_filter (kind : FruKind) (context : AlertContext) (m : FaultMap) (turns : List Turn) :
    told kind context m (turns.filter Turn.isPoll) = told kind context m turns := by
  induction turns generalizing m with
  | nil => rfl
  | cons turn rest ih =>
    cases turn with
    | poll given => exact congrArg (_ :: ·) (ih _)
    | restart => exact ih m

section Lives

variable (c : Chance) (kind : FruKind) (folder : String) (context : AlertContext)

def sensorOf (m : FaultMap) : FruSensor := ⟨kind, FruSensor.storeIn kind folder, m, context⟩

theorem start_eq (t : Site × Nat) :
    (c.start kind folder context t).1 =
        (t.1.memory (FruSensor.storeIn kind folder).path).map (sensorOf kind folder context) ∧
      (c.start kind folder context t).2.1 =
        (t.1.opened (FruSensor.storeIn kind folder).path).loaded
          (FruSensor.storeIn kind folder).path := by
  have hstart : Ensures (Site.Step (.ok [])) (fun _ => True)
      (FruSensor.start kind folder context) t.1 _ :=
    FruSensor.ensures_start trivial kind folder context trivial trivial
  exact hstart.run (c.step_answer (.ok []))

/-- A restart finds the sensor that was dropped, and leaves the site as it is. -/
theorem start_of_kept {m : FaultMap} {t : Site × Nat}
    (hkept : (sensorOf kind folder context m).Kept t.1) :
    (c.start kind folder context t).1 = .ok (sensorOf kind folder context m) ∧
      (c.start kind folder context t).2.1 = t.1 := by
  have hholds : t.1.Holds (FruSensor.storeIn kind folder).path m := hkept
  obtain ⟨hstart, hsite⟩ := start_eq c kind folder context t
  constructor
  · rw [hstart, hholds.memory_eq]
    rfl
  · rw [hsite, hholds.opened_eq, hholds.loaded_eq]

/-- A cycle takes in the statuses of its snapshot. -/
theorem Chance.cycle_tookIn (c : Chance) (s : FruSensor) (given : Except SourceError (List Json))
    (t : Site × Nat) :
    (c.cycle s given t).1.2.outcome = (FruSensor.report s.kind s.context s.faults given).outcome ∧
      FruSensor.TookIn True s (FruSensor.decoded given) t.1 (c.cycle s given t).1.1
        (c.cycle s given t).2.1 :=
  (FruSensor.ensures_poll s).run fun r t => (c.step_answer given r t).attempt

/-- A cycle reports what its snapshot tells, and the file holds what the sensor then remembers. -/
theorem cycle_eq {m : FaultMap} {t : Site × Nat}
    (hkept : (sensorOf kind folder context m).Kept t.1) (given : Except SourceError (List Json)) :
    (c.cycle (sensorOf kind folder context m) given t).1.1 =
        sensorOf kind folder context (FruSensor.report kind context m given).faults ∧
      (c.cycle (sensorOf kind folder context m) given t).1.2.timeless =
        FruSensor.report kind context m given ∧
      (c.cycle (sensorOf kind folder context m) given t).2.1.alerts.map AlertRecord.timeless =
        t.1.alerts.map AlertRecord.timeless ++ (FruSensor.report kind context m given).alerts ∧
      (sensorOf kind folder context (FruSensor.report kind context m given).faults).Kept
        (c.cycle (sensorOf kind folder context m) given t).2.1 := by
  obtain ⟨houtcome, htaken⟩ := c.cycle_tookIn (sensorOf kind folder context m) given t
  have hsensor : (c.cycle (sensorOf kind folder context m) given t).1.1 =
      sensorOf kind folder context (FruSensor.report kind context m given).faults := by
    rw [htaken.sensor, FruSensor.report_faults]
    rfl
  have hreport : (c.cycle (sensorOf kind folder context m) given t).1.2.timeless =
      ⟨(c.cycle (sensorOf kind folder context m) given t).1.2.outcome,
        (c.cycle (sensorOf kind folder context m) given t).1.1.faults,
        ((c.cycle (sensorOf kind folder context m) given t).2.1.alerts.drop
          t.1.alerts.length).map AlertRecord.timeless⟩ := rfl
  refine ⟨hsensor, ?_, ?_, hsensor ▸ htaken.kept hkept⟩
  · rw [hreport, houtcome, hsensor, htaken.handed, ← FruSensor.report_alerts]
    rfl
  · rw [htaken.alerts, FruSensor.report_alerts]
    rfl

theorem map_timeless_cons (r : CycleReport) (rs : Except StoreError (List CycleReport)) :
    (rs.map (r :: ·)).map (List.map CycleReport.timeless) =
      (rs.map (List.map CycleReport.timeless)).map (r.timeless :: ·) := by
  cases rs <;> rfl

/-- What is reported and handed over from here on is what the snapshots tell. -/
theorem goOn_told (turns : List Turn) {m : FaultMap} {t : Site × Nat}
    (hkept : (sensorOf kind folder context m).Kept t.1) :
    (c.goOn kind folder context (sensorOf kind folder context m) turns t).1.map
        (List.map CycleReport.timeless) = .ok (told kind context m turns) ∧
      (c.goOn kind folder context (sensorOf kind folder context m) turns t).2.1.alerts.map
        AlertRecord.timeless = t.1.alerts.map AlertRecord.timeless ++
          (told kind context m turns).flatMap CycleReport.alerts := by
  -- on the turns: the file holds what the sensor remembers before each of them
  induction turns generalizing m t with
  | nil => exact ⟨rfl, (List.append_nil _).symm⟩
  | cons turn rest ih =>
    cases turn with
    | poll given =>
      obtain ⟨hsensor, hreport, halerts, hheld⟩ := cycle_eq c kind folder context hkept given
      have hgoOn : c.goOn kind folder context (sensorOf kind folder context m)
          (.poll given :: rest) t =
          let run := c.cycle (sensorOf kind folder context m) given t
          let later := c.goOn kind folder context run.1.1 rest run.2
          (later.1.map (run.1.2 :: ·), later.2) := rfl
      obtain ⟨hreports, hlater⟩ := ih hheld
      rw [hgoOn]
      simp only [hsensor]
      refine ⟨?_, ?_⟩
      · rw [map_timeless_cons, hreports, hreport]
        rfl
      · rw [hlater, halerts, List.append_assoc]
        rfl
    | restart =>
      obtain ⟨hstart, hsite⟩ := start_of_kept c kind folder context hkept
      have hrun : c.start kind folder context t =
          (.ok (sensorOf kind folder context m), (c.start kind folder context t).2) :=
        Prod.ext hstart rfl
      have hgoOn : c.goOn kind folder context (sensorOf kind folder context m)
          (.restart :: rest) t =
          c.goOn kind folder context (sensorOf kind folder context m) rest
            (c.start kind folder context t).2 := by
        simp only [Chance.goOn, Bind.bind, StateT.bind]
        rw [hrun]
      rw [← hsite] at hkept
      rw [hgoOn, ← hsite]
      exact ih hkept

/-- What a life reports and hands over is what its snapshots tell, from the map of the first file
on. -/
theorem life_told (site : Site) (turns : List Turn) :
    let memory := site.memory (FruSensor.storeIn kind folder).path
    (c.life kind folder context site turns).1.map (List.map CycleReport.timeless) =
        memory.map (told kind context · turns) ∧
      (c.life kind folder context site turns).2.alerts.map AlertRecord.timeless =
        site.alerts.map AlertRecord.timeless ++
          (memory.toOption.elim [] (told kind context · turns)).flatMap CycleReport.alerts := by
  obtain ⟨hstart, hsite⟩ := start_eq c kind folder context (site, 0)
  have halerts : (c.start kind folder context (site, 0)).2.1.alerts = site.alerts := by
    rw [hsite, Site.loaded_alerts, Site.opened_alerts]
  have hrun : c.start kind folder context (site, 0) = ((site.memory
      (FruSensor.storeIn kind folder).path).map (sensorOf kind folder context),
        (c.start kind folder context (site, 0)).2) := Prod.ext hstart rfl
  simp only [Chance.life, Bind.bind, StateT.bind]
  rw [hrun]
  cases hm : site.memory (FruSensor.storeIn kind folder).path with
  | error e =>
    refine ⟨rfl, ?_⟩
    change List.map AlertRecord.timeless (c.start kind folder context (site, 0)).2.1.alerts = _
    rw [halerts]
    exact (List.append_nil _).symm
  | ok m =>
    have hkept : (sensorOf kind folder context m).Kept
        (c.start kind folder context (site, 0)).2.1 := by
      rw [hsite]
      exact Site.holds_loaded hm
    obtain ⟨hreports, hhanded⟩ := goOn_told c kind folder context turns hkept
    rw [halerts] at hhanded
    exact ⟨hreports, hhanded⟩

end Lives

/-- **A life with restarts is told by its snapshots alone.** It reports what a life without them
reports, the outcome, the memory and the alerts of each cycle, and hands over the same alerts in
all, but for their identities and times. It fails only if the file that it starts with is not read
as a text. -/
theorem restarts_unseen (kind : FruKind) (folder : String) (context : AlertContext) (c c' : Chance)
    (site : Site) (turns : List Turn) :
    let restarted := c.life kind folder context site turns
    let straight := c'.life kind folder context site (turns.filter Turn.isPoll)
    restarted.1.map (List.map CycleReport.timeless) =
        straight.1.map (List.map CycleReport.timeless) ∧
      restarted.2.alerts.map AlertRecord.timeless = straight.2.alerts.map AlertRecord.timeless ∧
      ((∃ reports, restarted.1 = .ok reports) ↔
        ∃ text, site.text (FruSensor.storeIn kind folder).path = .ok text) := by
  obtain ⟨hrestarted, hhanded⟩ := life_told c kind folder context site turns
  obtain ⟨hstraight, hhanded'⟩ :=
    life_told c' kind folder context site (turns.filter Turn.isPoll)
  simp only [told_filter] at hstraight hhanded'
  refine ⟨hrestarted.trans hstraight.symm, hhanded.trans hhanded'.symm, ?_⟩
  rw [Site.memory] at hrestarted
  cases hlife : (c.life kind folder context site turns).1 <;>
    cases htext : site.text (FruSensor.storeIn kind folder).path <;>
    simp [hlife, htext, Except.map] at hrestarted ⊢

/-! ## A sensor to try the results on -/

namespace FruTrial

/-- Requests that are answered in the same way whenever they are made. -/
def luck : Chance := ⟨fun _ => "", fun _ => "", fun _ => true⟩

def context : AlertContext := ⟨1, 2, 3, 4, "host"⟩

def unit (id health status : String) : Json :=
  .object [("durable-id", .string id), ("health", .string health), ("status", .string status)]

/-- A controller that has failed, and one that is gone. -/
def records : List Json := [unit "0" "Fault" "Operational", unit "1" "Fault" "Not Installed"]

def site : Site :=
  (⟨fun _ => none, []⟩ : Site).write (FruSensor.storeIn .controller "state").path
    (∅ : FaultMap).encode.toUTF8

def sensor : FruSensor := sensorOf .controller "state" context ∅

theorem sensor_kept : sensor.Kept site := Site.holds_write _ _ _

end FruTrial

end HealthAgent
