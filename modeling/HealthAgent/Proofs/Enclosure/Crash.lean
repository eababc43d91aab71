import HealthAgent.Proofs.Enclosure.Restarts
import Mathlib.Data.List.Nodup
/-!
# Crashes within a cycle of an enclosure's sensor

A cycle takes in the statuses of its snapshot one after the other; for each change it hands over an
alert and then saves the map. Wherever it is cut short, the file holds the map after some of the
statuses, and what has been handed over are the alerts of their changes and at most one more: the
next change may have been told and not saved (`FruSensor.CutShort`).

The restarted sensor goes on from the file. The statuses that were saved are silent in its cycle if
every unit is listed once, since a unit's record then is as its own status has left it
(`FaultMap.observeAll_again`). So the cycle tells all changes that were not saved, one of which may
have been told before.

Results:
* `FruSensor.ensures_poll_cut`: what a cycle has done wherever it is cut short.
* `FaultMap.changes_resume`: what is left to tell after some of the statuses were saved.
* `crash_repeats_at_most_one`: after a crash and a restart nothing is lost, and at most one alert is
  told twice.
-/
namespace HealthAgent
open Program

namespace FaultMap

theorem changes_sublist (m : FaultMap) (statuses : List FruStatus) :
    ((m.changes statuses).map (·.1)).Sublist statuses := by
  induction statuses generalizing m with
  | nil => exact .slnil
  | cons s rest ih =>
    rw [changes, List.map_append]
    cases (m.observe s).2 with
    | none => exact (ih _).cons s
    | some kind => exact (ih _).cons_cons s

/-- From the map after some of the statuses on, the snapshot tells the changes that are left, and
comes to the same map. -/
theorem changes_resume (m : FaultMap) {seen rest : List FruStatus}
    (hdistinct : ((seen ++ rest).map (·.resourceId)).Nodup) :
    (m.observeAll seen).changes (seen ++ rest) = (m.observeAll seen).changes rest ∧
      (m.observeAll seen).observeAll (seen ++ rest) = m.observeAll (seen ++ rest) := by
  rw [List.map_append] at hdistinct
  have hsilent := m.observeAll_again (List.Nodup.of_append_left hdistinct)
  have hsame := observeAll_of_quiet hsilent
  constructor
  · rw [changes_append, hsilent, hsame, List.nil_append]
  · rw [observeAll_append, hsame, observeAll_append]

end FaultMap

namespace FruSensor

variable {given : Except SourceError (List Json)} {site : Site}

/-- A cycle that takes in `statuses` from `site` on, cut short at `site'`: some of the statuses are
seen and saved, and at most the first change of the rest is told. -/
def CutShort (s : FruSensor) (statuses : List FruStatus) (site site' : Site) : Prop :=
  ∃ seen rest, statuses = seen ++ rest ∧ site'.Holds s.store.path (s.faults.observeAll seen) ∧
    ∃ twice, twice <+: (s.faults.observeAll seen).changes rest ∧ twice.length ≤ 1 ∧
      site'.alerts.map AlertRecord.timeless = site.alerts.map AlertRecord.timeless ++
        (s.faults.changes seen ++ twice).map (alertFor s.kind s.context)

theorem CutShort.refl {s : FruSensor} (hkept : s.Kept site) (statuses : List FruStatus) :
    s.CutShort statuses site site :=
  ⟨[], statuses, rfl, hkept, [], List.nil_prefix, Nat.zero_le 1, (List.append_nil _).symm⟩

theorem CutShort.cons {s s₁ : FruSensor} {status : FruStatus} {rest : List FruStatus}
    {site₁ site₂ : Site} (h : TookIn True s [status] site s₁ site₁)
    (h' : s₁.CutShort rest site₁ site₂) : s.CutShort (status :: rest) site site₂ := by
  obtain ⟨rfl, halerts, -, -, -⟩ := h
  obtain ⟨seen, rest, rfl, hheld, twice, htwice, hone, hhanded⟩ := h'
  refine ⟨status :: seen, rest, rfl, hheld, twice, htwice, hone, ?_⟩
  have hchanges := s.faults.changes_append [status] seen
  rw [List.singleton_append] at hchanges
  rw [hhanded, halerts, hchanges, List.append_assoc, ← List.map_append, List.append_assoc]

theorem ensures_takeInAll_cut (s : FruSensor) (hkept : s.Kept site) (statuses : List FruStatus) :
    Ensures (Site.Attempt True given) (s.CutShort statuses site) (s.takeInAll statuses) site
      fun _ _ => True := by
  induction statuses generalizing s site with
  | nil => exact .done (.refl hkept []) trivial
  | cons status rest ih =>
    -- within a status: nothing is done, or its change is told, or it is told and saved
    have hfirst : Ensures (Site.Attempt True given) (s.CutShort (status :: rest) site)
        (s.takeIn status) site fun s' site' => TookIn True s [status] site s' site' := by
      refine ensures_takeIn (.refl hkept _) s status fun kind time salt hkind => ⟨?_, ?_⟩
      · have hchanges : s.faults.changes (status :: rest) =
            (status, kind) :: (s.faults.observe status).1.changes rest := by
          rw [FaultMap.changes, hkind]
          rfl
        refine ⟨[], status :: rest, rfl, hkept, [(status, kind)], ?_, Nat.le_refl 1, ?_⟩
        · exact hchanges ▸ List.prefix_append [(status, kind)] _
        · simp [timeless_assemble, FaultMap.changes]
      · refine ⟨[status], rest, rfl, Site.holds_write _ _ _, [], List.nil_prefix, Nat.zero_le 1, ?_⟩
        simp [timeless_assemble, FaultMap.changes, hkind]
    apply Ensures.bind hfirst
    intro s₁ site₁ htaken
    exact (ih s₁ (htaken.kept hkept)).mono (fun _ h => .cons htaken h) fun _ _ _ h => h

theorem ensures_poll_cut (s : FruSensor) (hkept : s.Kept site) (records : List Json) :
    Ensures (Site.Attempt True (.ok records)) (s.CutShort (statuses records) site) s.poll site
      fun _ _ => True := by
  apply Ensures.call (.refl hkept _)
  rintro a site' ⟨rfl, rfl⟩
  apply Ensures.bind ((ensures_takeInAll_cut s hkept (statuses records)).mono (fun _ h => h)
    fun _ _ hcut _ => hcut)
  intro s' site'' hcut
  exact .done hcut trivial

end FruSensor

/-- What an alert tells: a unit, and the kind of its change. -/
def AlertRecord.transition (r : AlertRecord) : String × AlertKind := (r.info.resourceId, r.kind)

theorem AlertRecord.transition_timeless (alerts : List AlertRecord) :
    (alerts.map timeless).map transition = alerts.map transition := by
  rw [List.map_map]
  rfl

/-- What comes of a cycle that is cut short and run again after a restart. -/
structure Recovery where
  /-- The alerts handed over before the crash. -/
  before : List AlertRecord
  /-- The site that the crash left. -/
  crashed : Site
  /-- What the cycle after the restart reports. -/
  again : CycleReport
  /-- The restarted sensor after this cycle. -/
  sensor : FruSensor
  /-- The site after this cycle. -/
  site : Site

namespace Chance

/-- The site where a cycle is cut short after `n` requests. -/
def crash (c : Chance) (s : FruSensor) (given : Except SourceError (List Json)) (n : Nat)
    (site : Site) : Site :=
  (s.poll.runFor (c.answer given) n (site, 0)).2.1

/-- A sensor's cycle is cut short after `n` requests; then the sensor is started anew, with other
luck, and runs the cycle again. This fails if the start does. -/
def recover (c c' : Chance) (kind : FruKind) (folder : String) (context : AlertContext)
    (s : FruSensor) (given : Except SourceError (List Json)) (n : Nat) (site : Site) :
    Except StoreError Recovery :=
  let crashed := c.crash s given n site
  match c'.start kind folder context (crashed, 0) with
  | (.error e, _) => .error e
  | (.ok s, t) =>
    let ((s, again), t) := c'.cycle s given t
    .ok ⟨crashed.alerts.drop site.alerts.length, crashed, again, s, t.1⟩

end Chance

section Crashes

variable (c c' : Chance) (kind : FruKind) (folder : String) (context : AlertContext)
  {m : FaultMap} {site : Site}

theorem crash_cut (hkept : (sensorOf kind folder context m).Kept site) (records : List Json)
    (n : Nat) :
    (sensorOf kind folder context m).CutShort (FruSensor.statuses records) site
      (c.crash (sensorOf kind folder context m) (.ok records) n site) :=
  (FruSensor.ensures_poll_cut _ hkept records).runFor Prod.fst
    (fun r t => (c.step_answer (.ok records) r t).attempt) n

/-- A restart on a site where the file holds `m` finds `m`, and the cycle that follows tells what is
new to it. -/
theorem recover_eq {s : FruSensor} {given : Except SourceError (List Json)} {n : Nat}
    (hheld : (sensorOf kind folder context m).Kept (c.crash s given n site)) :
    ∃ r, c.recover c' kind folder context s given n site = .ok r ∧
      r.before = (c.crash s given n site).alerts.drop site.alerts.length ∧
      r.crashed = c.crash s given n site ∧
      r.again.timeless = FruSensor.report kind context m given ∧
      r.sensor = sensorOf kind folder context (FruSensor.report kind context m given).faults ∧
      r.sensor.Kept r.site := by
  obtain ⟨hstart, hsite⟩ := start_of_kept c' kind folder context (t := (c.crash s given n site, 0))
    hheld
  have hrun : c'.start kind folder context (c.crash s given n site, 0) =
      (.ok (sensorOf kind folder context m),
        (c'.start kind folder context (c.crash s given n site, 0)).2) := Prod.ext hstart rfl
  have hfound : (sensorOf kind folder context m).Kept
      (c'.start kind folder context (c.crash s given n site, 0)).2.1 := hsite ▸ hheld
  obtain ⟨hsensor, hreport, -, hkept⟩ := cycle_eq c' kind folder context hfound given
  rw [← hsensor] at hkept
  let run := c'.cycle (sensorOf kind folder context m) given
    (c'.start kind folder context (c.crash s given n site, 0)).2
  have hrecover : c.recover c' kind folder context s given n site =
      .ok ⟨(c.crash s given n site).alerts.drop site.alerts.length, c.crash s given n site, run.1.2,
        run.1.1, run.2.1⟩ := by
    rw [Chance.recover, hrun]
    rfl
  exact ⟨_, hrecover, rfl, rfl, hreport, hsensor, hkept⟩

/-- A snapshot that lists every unit once tells no change twice. -/
theorem transitions_nodup {statuses : List FruStatus} {alerts : List AlertRecord}
    (hdistinct : (statuses.map (·.resourceId)).Nodup)
    (halerts : alerts.map AlertRecord.timeless =
      (m.changes statuses).map (FruSensor.alertFor kind context)) :
    (alerts.map AlertRecord.transition).Nodup := by
  have hunits : (alerts.map AlertRecord.transition).map Prod.fst =
      ((m.changes statuses).map (·.1)).map (·.resourceId) := by
    rw [← AlertRecord.transition_timeless, halerts]
    simp only [List.map_map]
    rfl
  apply List.Nodup.of_map Prod.fst
  rw [hunits]
  exact hdistinct.sublist ((m.changes_sublist statuses).map _)

/-- What is counted twice: the front of what is left to tell. -/
theorem count_twice {α : Type} [BEq α] [LawfulBEq α] {saved twice unsaved : List α}
    (hdistinct : (saved ++ unsaved).Nodup) (htwice : twice <+: unsaved) {x : α}
    (hx : x ∈ saved ++ unsaved) :
    (saved ++ twice ++ unsaved).count x = if x ∈ twice then 2 else 1 := by
  have honce : (saved ++ unsaved).count x = 1 := List.count_eq_one_of_mem hdistinct hx
  simp only [List.count_append] at honce ⊢
  by_cases hmem : x ∈ twice
  · have hfront : twice.count x = 1 :=
      List.count_eq_one_of_mem ((List.Nodup.of_append_right hdistinct).sublist htwice.sublist) hmem
    rw [if_pos hmem]
    omega
  · have hfront : twice.count x = 0 := List.count_eq_zero_of_not_mem hmem
    rw [if_neg hmem]
    omega

/-- Every change is told once across a crash, but for those that were told and not saved. -/
theorem count_transition {whole before again saved twice unsaved : List AlertRecord}
    (hwhole : whole.map AlertRecord.timeless = saved ++ unsaved)
    (hbefore : before.map AlertRecord.timeless = saved ++ twice)
    (hagain : again.map AlertRecord.timeless = unsaved) (htwice : twice <+: unsaved)
    (hdistinct : (whole.map AlertRecord.transition).Nodup) :
    ∀ x ∈ whole.map AlertRecord.transition,
      ((before ++ again).map AlertRecord.transition).count x =
        if x ∈ twice.map AlertRecord.transition then 2 else 1 := by
  have honce : whole.map AlertRecord.transition =
      saved.map AlertRecord.transition ++ unsaved.map AlertRecord.transition := by
    rw [← AlertRecord.transition_timeless, hwhole, List.map_append]
  have htold : (before ++ again).map AlertRecord.transition = saved.map AlertRecord.transition ++
      twice.map AlertRecord.transition ++ unsaved.map AlertRecord.transition := by
    rw [← AlertRecord.transition_timeless, List.map_append, hbefore, hagain, List.map_append,
      List.map_append]
  rw [honce] at hdistinct ⊢
  rw [htold]
  exact fun x hx => count_twice hdistinct (htwice.map _) hx

/-- **A crash within a cycle loses no change and repeats at most one.** A cycle is cut short after
any number of requests, the sensor is started anew in the same folder and runs a cycle over the same
snapshot, in which every unit is listed once. Then the changes that a cycle to the end tells are
told as well: before the crash those that the file of the crashed sensor holds and at most one more,
after it those that the file does not hold. So every change is told once, but for the one that was
told and not saved, which is told twice; and the memory and the file end as they would have. -/
theorem crash_repeats_at_most_one (hkept : (sensorOf kind folder context m).Kept site)
    {records : List Json}
    (hdistinct : ((FruSensor.statuses records).map (·.resourceId)).Nodup) (n : Nat) :
    let s := sensorOf kind folder context m
    let whole := (c.cycle s (.ok records) (site, 0)).1.2
    ∃ r, c.recover c' kind folder context s (.ok records) n site = .ok r ∧
      (∃ saved twice unsaved : List AlertRecord,
        whole.timeless.alerts = saved ++ unsaved ∧
        r.before.map AlertRecord.timeless = saved ++ twice ∧
        r.again.timeless.alerts = unsaved ∧ twice <+: unsaved ∧ twice.length ≤ 1 ∧
        (∃ seen, seen <+: FruSensor.statuses records ∧
          r.crashed.Holds s.store.path (m.observeAll seen) ∧
          saved = (m.changes seen).map (FruSensor.alertFor kind context)) ∧
        (whole.alerts.map AlertRecord.transition).Nodup ∧
        ∀ x ∈ whole.alerts.map AlertRecord.transition,
          ((r.before ++ r.again.alerts).map AlertRecord.transition).count x =
            if x ∈ twice.map AlertRecord.transition then 2 else 1) ∧
      r.sensor.faults = whole.faults ∧ r.sensor.Kept r.site := by
  intro s whole
  obtain ⟨seen, rest, hsplit, hheld, twice, htwice, hone, hhanded⟩ :=
    crash_cut c kind folder context hkept records n
  have hfound : (sensorOf kind folder context (m.observeAll seen)).Kept
      (c.crash s (.ok records) n site) := hheld
  obtain ⟨r, hr, hbefore, hcrashed, hagain, hsensor, hkept'⟩ :=
    recover_eq c c' kind folder context hfound
  obtain ⟨-, hwhole, -, -⟩ := cycle_eq c kind folder context (t := (site, 0)) hkept (.ok records)
  obtain ⟨hresume, hend⟩ := m.changes_resume (hsplit ▸ hdistinct)
  have hwholeAlerts : whole.timeless.alerts =
      (m.changes seen).map (FruSensor.alertFor kind context) ++
        ((m.observeAll seen).changes rest).map (FruSensor.alertFor kind context) := by
    rw [← List.map_append, ← FaultMap.changes_append, ← hsplit]
    exact congrArg CycleReport.alerts hwhole
  have hbeforeAlerts : r.before.map AlertRecord.timeless =
      (m.changes seen).map (FruSensor.alertFor kind context) ++
        twice.map (FruSensor.alertFor kind context) := by
    rw [hbefore, List.map_drop, hhanded, List.drop_left' (List.length_map _), List.map_append]
    rfl
  have hagainAlerts : r.again.timeless.alerts =
      ((m.observeAll seen).changes rest).map (FruSensor.alertFor kind context) := by
    rw [hagain, ← hresume, ← hsplit]
    rfl
  have hnodup : (whole.alerts.map AlertRecord.transition).Nodup :=
    transitions_nodup kind context hdistinct (congrArg CycleReport.alerts hwhole)
  have hfaults : r.sensor.faults = whole.faults := by
    have hfaults' : whole.faults = m.observeAll (FruSensor.statuses records) :=
      congrArg CycleReport.faults hwhole
    rw [hsensor, hfaults', hsplit, ← hend, ← hsplit]
    rfl
  have hfront := htwice.map (FruSensor.alertFor kind context)
  refine ⟨r, hr, ⟨_, _, _, hwholeAlerts, hbeforeAlerts, hagainAlerts, hfront, ?_,
    ⟨seen, ⟨rest, hsplit.symm⟩, hcrashed ▸ hheld, rfl⟩, hnodup,
    count_transition hwholeAlerts hbeforeAlerts hagainAlerts hfront hnodup⟩, hfaults, hkept'⟩
  rw [List.length_map]
  exact hone

end Crashes

open FruTrial in
/-- A crash between an alert and the save behind it: the alert is told again after the restart. -/
theorem crash_repeats_unsaved_alert : sensor.Kept site ∧
    ((FruSensor.statuses records).map (·.resourceId)).Nodup ∧
    ∃ r, luck.recover luck .controller "state" context sensor (.ok records) 4 site = .ok r ∧
      r.before.map AlertRecord.transition = [("0", .fault)] ∧
      r.again.alerts.map AlertRecord.transition = [("0", .fault), ("1", .missing)] ∧
      r.sensor.Kept r.site := by
  have hdistinct : ((FruSensor.statuses records).map (·.resourceId)).Nodup := by decide +kernel
  obtain ⟨r, hr, -, -, hkept⟩ := crash_repeats_at_most_one luck luck .controller "state" context
    sensor_kept hdistinct 4
  have htold : (luck.recover luck .controller "state" context sensor (.ok records) 4 site).map
      (fun r => (r.before.map AlertRecord.transition, r.again.alerts.map AlertRecord.transition)) =
        .ok ([("0", .fault)], [("0", .fault), ("1", .missing)]) := by decide +kernel
  have hr' : luck.recover luck .controller "state" context sensor (.ok records) 4 site = .ok r := hr
  rw [hr'] at htold
  obtain ⟨hbefore, hagain⟩ := Prod.mk.inj (Except.ok.inj htold)
  exact ⟨sensor_kept, hdistinct, r, hr, hbefore, hagain, hkept⟩

end HealthAgent
