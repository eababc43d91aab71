import HealthAgent.Proofs.Enclosure.Site
import HealthAgent.Proofs.Enclosure.Units
/-!
# A cycle of an enclosure's sensor

A snapshot tells statuses, and statuses tell changes. A cycle hands over one alert for each change
and makes an attempt to save the map after each. What is left to chance in an alert are its identity
and its time, which `AlertRecord.timeless` takes away.

What a sensor remembers and hands over is a matter of the statuses that it has taken in. What its
file holds is a matter of the attempts to save: the file is left alone, or holds what was remembered
after some of the statuses, all of them if no attempt fails (`FruSensor.TookIn`). So on a site where
files can be written, a file that holds what the sensor remembers goes on to do so.

Results:
* `FruSensor.poll_eq`: a cycle is one request for records, and what is done with them.
* `FruSensor.TookIn.append`: what is taken in one after the other.
* `FruSensor.TookIn.kept`: the file keeps up with the memory if no attempt to save fails.
* `FruSensor.ensures_takeIn`: what taking in one status does, wherever it is cut short.
* `FruSensor.ensures_takeInAll`, `FruSensor.ensures_poll`: what a snapshot and a cycle do, whichever
  attempts to save fail.
-/
namespace HealthAgent
open Program

/-- An alert without its identity and its time. -/
def AlertRecord.timeless (r : AlertRecord) : AlertRecord :=
  { r with alertId := "", info := { r.info with eventTime := "" } }

/-- What a cycle comes to: whether there are more to come, what is remembered after it, and the
alerts that it handed over. -/
structure CycleReport where
  outcome : Outcome
  faults : FaultMap
  alerts : List AlertRecord

/-- A report without the identities and times of its alerts. -/
def CycleReport.timeless (r : CycleReport) : CycleReport :=
  { r with alerts := r.alerts.map AlertRecord.timeless }

namespace FruSensor

/-- The alert for a change, without its identity and its time. -/
def alertFor (kind : FruKind) (context : AlertContext) (change : FruStatus × AlertKind) :
    AlertRecord :=
  context.assemble "" (draftOf kind change.1 change.2 "")

theorem timeless_assemble (kind : FruKind) (context : AlertContext) (status : FruStatus)
    (change : AlertKind) (time salt : String) :
    (context.assemble salt (draftOf kind status change time)).timeless =
      alertFor kind context (status, change) := rfl

/-- The statuses that are taken in if the service gives `given`. -/
def decoded : Except SourceError (List Json) → List FruStatus
  | .ok records => statuses records
  | .error _ => []

/-- What a cycle comes to that is given the records of a snapshot, or a failure. -/
def report (kind : FruKind) (context : AlertContext) (m : FaultMap) :
    Except SourceError (List Json) → CycleReport
  | .error e => ⟨.ofResult (.error e), m, []⟩
  | .ok records => ⟨.proceed, m.observeAll (statuses records),
      (m.changes (statuses records)).map (alertFor kind context)⟩

theorem report_faults (kind : FruKind) (context : AlertContext) (m : FaultMap)
    (given : Except SourceError (List Json)) :
    (report kind context m given).faults = m.observeAll (decoded given) := by
  cases given <;> rfl

theorem report_alerts (kind : FruKind) (context : AlertContext) (m : FaultMap)
    (given : Except SourceError (List Json)) :
    (report kind context m given).alerts =
      (m.changes (decoded given)).map (alertFor kind context) := by
  cases given <;> rfl

/-- What a cycle does once it has been given the records of a snapshot, or a failure. -/
def takeSnapshot (s : FruSensor) :
    Except SourceError (List Json) → SensorProgram (Outcome × FruSensor)
  | .error e => .done (.ofResult (.error e), s)
  | .ok records => (s.takeInAll (statuses records)).bind fun s => .done (.proceed, s)

theorem poll_eq (s : FruSensor) :
    s.poll = .call (.records s.kind.apiPath s.kind.responseKey) s.takeSnapshot :=
  congrArg (Program.call _) (funext fun given => by cases given <;> rfl)

variable {writable : Prop} {given : Except SourceError (List Json)} {I : Site → Prop} {site : Site}

/-- A sensor on a site has taken in statuses. -/
structure TookIn (writable : Prop) (s : FruSensor) (statuses : List FruStatus) (site : Site)
    (s' : FruSensor) (site' : Site) : Prop where
  sensor : s' = { s with faults := s.faults.observeAll statuses }
  alerts : site'.alerts.map AlertRecord.timeless = site.alerts.map AlertRecord.timeless ++
    (s.faults.changes statuses).map (alertFor s.kind s.context)
  /-- The file is left alone, or holds what was remembered after some of the statuses. -/
  past : site'.files = site.files ∨
    ∃ seen, seen <+: statuses ∧ site'.Holds s.store.path (s.faults.observeAll seen)
  /-- Without a change no attempt to save is made. -/
  quiet : s.faults.changes statuses = [] → site'.files = site.files
  /-- If no attempt fails, the file is up to date from the first change on. -/
  saved : writable → s.faults.changes statuses ≠ [] →
    site'.Holds s.store.path (s.faults.observeAll statuses)

namespace TookIn

variable {s s₁ s₂ : FruSensor} {site₁ site₂ : Site} {xs ys : List FruStatus}

theorem refl (writable : Prop) (s : FruSensor) (site : Site) :
    TookIn writable s [] site s site where
  sensor := rfl
  alerts := (List.append_nil _).symm
  past := .inl rfl
  quiet _ := rfl
  saved _ h := absurd rfl h

theorem append (h : TookIn writable s xs site s₁ site₁)
    (h' : TookIn writable s₁ ys site₁ s₂ site₂) :
    TookIn writable s (xs ++ ys) site s₂ site₂ := by
  obtain ⟨rfl, halerts, hpast, hquiet, hsaved⟩ := h
  obtain ⟨rfl, halerts', hpast', hquiet', hsaved'⟩ := h'
  have hall := s.faults.observeAll_append xs ys
  have hchanges := s.faults.changes_append xs ys
  constructor
  · rw [hall]
  · rw [hchanges, List.map_append, ← List.append_assoc, ← halerts, halerts']
  · rcases hpast' with hsame' | ⟨seen, hseen, hheld⟩
    · rcases hpast with hsame | ⟨seen, hseen, hheld⟩
      · exact .inl (hsame'.trans hsame)
      · exact .inr ⟨seen, hseen.trans (List.prefix_append xs ys), hheld.of_files hsame'⟩
    · refine .inr ⟨xs ++ seen, (List.prefix_append_right_inj xs).2 hseen, ?_⟩
      rw [FaultMap.observeAll_append]
      exact hheld
  · intro hnone
    obtain ⟨hxs, hys⟩ := List.append_eq_nil_iff.1 (hchanges ▸ hnone)
    exact (hquiet' hys).trans (hquiet hxs)
  · intro hwritable hsome
    rw [hall]
    by_cases hys : (s.faults.observeAll xs).changes ys = []
    · -- the file is as the first statuses have left it, and so is the memory
      rw [FaultMap.observeAll_of_quiet hys]
      refine (hsaved hwritable fun hxs => hsome ?_).of_files (hquiet' hys)
      rw [hchanges, hxs, hys, List.append_nil]
    · exact hsaved' hwritable hys

/-- The alerts that were handed over are those behind the ones that were there before. -/
theorem handed (h : TookIn writable s xs site s₁ site₁) :
    (site₁.alerts.drop site.alerts.length).map AlertRecord.timeless =
      (s.faults.changes xs).map (alertFor s.kind s.context) := by
  rw [List.map_drop, h.alerts]
  exact List.drop_left' (List.length_map _)

/-- A file that holds what the sensor remembers keeps up if no attempt to save fails. -/
theorem kept (h : TookIn True s xs site s₁ site₁) (hkept : s.Kept site) : s₁.Kept site₁ := by
  obtain ⟨rfl, -, -, hquiet, hsaved⟩ := h
  by_cases hnone : s.faults.changes xs = []
  · rw [FaultMap.observeAll_of_quiet hnone]
    exact hkept.of_files (hquiet hnone)
  · exact hsaved trivial hnone

end TookIn

/-- A status is taken in: without a change nothing is done, a change is handed over, and an attempt
is made to save it. -/
theorem ensures_takeIn (hI : I site) (s : FruSensor) (status : FruStatus)
    (hchange : ∀ kind time salt, (s.faults.observe status).2 = some kind →
      let handed := site.hand (s.context.assemble salt (draftOf s.kind status kind time))
      I handed ∧ I (handed.write s.store.path (s.faults.observe status).1.encode.toUTF8)) :
    Ensures (Site.Attempt writable given) I (s.takeIn status) site fun s' site' =>
      TookIn writable s [status] site s' site' := by
  have hchanges : s.faults.changes [status] = (s.faults.observe status).2.toList.map (status, ·) :=
    List.append_nil _
  have hafter : s.faults.observeAll [status] = (s.faults.observe status).1 := rfl
  unfold takeIn
  have hsilent := @FaultMap.observe_silent s.faults status
  rcases hobserve : s.faults.observe status with ⟨faults, change⟩
  rw [hobserve] at hsilent hchange hchanges hafter
  cases change with
  | none =>
    cases hsilent rfl
    refine .done hI ⟨?_, ?_, .inl rfl, fun _ => rfl, fun _ h => absurd hchanges h⟩
    · rw [hafter]
    · rw [hchanges]
      exact (List.append_nil _).symm
  | some kind =>
    obtain rfl : s.faults.observeAll [status] = faults := hafter
    have hsome : s.faults.changes [status] ≠ [] := by simp [hchanges]
    apply Ensures.call hI
    rintro time site₁ rfl
    apply Ensures.call hI
    rintro salt site₁ rfl
    apply Ensures.call hI
    rintro taken site₁ rfl
    obtain ⟨hhanded, hwritten⟩ := hchange kind time salt rfl
    apply Ensures.bind (FaultStore.ensures_attempt hhanded s.store _ hwritten)
    rintro r site₂ (rfl | ⟨hwritable, rfl⟩)
    · have hheld := Site.holds_write (site₁.hand (s.context.assemble salt
        (draftOf s.kind status kind time))) s.store.path (s.faults.observeAll [status])
      exact .done hwritten ⟨rfl, by simp [hchanges, timeless_assemble],
        .inr ⟨[status], List.prefix_rfl, hheld⟩, fun h => absurd h hsome, fun _ _ => hheld⟩
    · exact .done hhanded ⟨rfl, by simp [hchanges, timeless_assemble], .inl rfl, fun _ => rfl,
        fun h => absurd h hwritable⟩

/-- A snapshot is taken in: every change raises its alert. -/
theorem ensures_takeInAll (s : FruSensor) (statuses : List FruStatus) :
    Ensures (Site.Attempt writable given) (fun _ => True) (s.takeInAll statuses) site
      fun s' site' => TookIn writable s statuses site s' site' := by
  induction statuses generalizing s site with
  | nil => exact .done trivial (.refl writable s site)
  | cons status rest ih =>
    apply Ensures.bind (ensures_takeIn trivial s status fun _ _ _ _ => ⟨trivial, trivial⟩)
    intro s₁ site₁ hfirst
    exact (ih s₁).mono (fun _ h => h) fun _ _ _ hrest => hfirst.append hrest

theorem ensures_poll (s : FruSensor) :
    Ensures (Site.Attempt writable given) (fun _ => True) s.poll site fun r site' =>
      r.1 = (report s.kind s.context s.faults given).outcome ∧
        TookIn writable s (decoded given) site r.2 site' := by
  apply Ensures.call trivial
  rintro a site₁ ⟨rfl, rfl⟩
  cases a with
  | error e => exact .done trivial ⟨rfl, .refl writable s site₁⟩
  | ok records =>
    apply Ensures.bind (ensures_takeInAll s (statuses records))
    intro s₁ site₂ htaken
    exact .done trivial ⟨rfl, htaken⟩

end FruSensor
end HealthAgent
