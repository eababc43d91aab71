import HealthAgent.Proofs.EventLog.Aborted
import HealthAgent.Proofs.EventLog.InOrder
import HealthAgent.Proofs.EventLog.LineForm
import HealthAgent.Proofs.EventLog.Reports
/-!
# Conditions that end

A condition begins with an entry of one status and ends with an entry of the other. Both raise an alert
if the event is listed with both statuses, and all listed events are but one: the two rows for the power
down of a power unit spell its name differently, so that neither has a counterpart. The alert of that
fault is never followed by one that tells of its end. Two events tell of a fault with either status; for
all others that tell of a fault, or of something missing, the counterpart tells the end.

What an event raises is also reported: once an entry has been handled, its alert has been delivered. A
cycle that runs to its end, with the management tool there to describe the sensors, has handled all that
its plan left to do.

Results:
* `Device.classify_opposite_iff`, `Device.classify_opposite_kind`: what an event raises with the other
  status.
* `ensures_pollActs_faithful`: a cycle delivers the alerts of the entries that it handles, wherever it
  is cut short.
* `LogSensor.Cycle.finishes`: a completed cycle has handled what its plan left to do.
* `counterpart_yields_iff`: the alerts of entries that differ in their status.
* `power_down_never_ends`: a fault whose end raises no alert.
-/
namespace HealthAgent
open Program World

/-! ## Events and their counterparts -/

/-- The kind of alert that tells the end of what an alert of a kind reports. -/
def AlertKind.ending : AlertKind → AlertKind
  | fault => faultResolved
  | missing => insertion
  | kind => kind

/-- A row for the same event with the other status. -/
def EventRow.Counterpart (row row' : EventRow) : Prop :=
  row'.description = row.description ∧ row'.status = row.status.opposite
  deriving Decidable

namespace Device

/-- The events that raise a fault with either status. -/
def lastingEvents : List String := [
  "Non-Redundant: Sufficient from Insufficient", "Non-Redundant: Sufficient from Redundant"]

/-- The beginning and the end of a power down, whose names differ in a letter. -/
def Unpaired (d : Device) (description : String) (status : Assertion) : Prop :=
  d = .powerUnit ∧ (description = "240VA power down" ∧ status = .asserted ∨
    description = "240VV power down" ∧ status = .deasserted)
  deriving Decidable

variable {d : Device} {description : String} {status : Assertion} {kind kind' : AlertKind}
  {severity severity' : Severity}

theorem classify_eq (hd : d ≠ .fan) : d.classify description status =
    (d.events.find? fun row => row.description = description && row.status = status).map
      fun row => (row.kind, row.severity) := by
  cases d with
  | fan => exact absurd rfl hd
  | powerSupply => rfl
  | powerUnit => rfl
  | driveSlot => rfl

theorem classify_row : ∀ row ∈ d.events,
    d.classify row.description row.status = some (row.kind, row.severity) := by
  cases d <;> decide +kernel

theorem classify_eq_some_iff (hd : d ≠ .fan) :
    d.classify description status = some (kind, severity) ↔
      ⟨description, status, kind, severity⟩ ∈ d.events := by
  constructor
  · intro h
    rw [classify_eq hd] at h
    obtain ⟨row, hrow, hraised⟩ := Option.map_eq_some_iff.1 h
    obtain ⟨rfl, rfl⟩ : row.description = description ∧ row.status = status := by
      simpa using List.find?_some hrow
    cases hraised
    exact List.mem_of_find?_eq_some hrow
  · exact classify_row _

theorem exists_counterpart_iff : ∀ row ∈ d.events,
    (∃ row' ∈ d.events, row.Counterpart row') ↔ ¬ d.Unpaired row.description row.status := by
  cases d <;> decide +kernel

/-- The rows whose counterpart tells the end. -/
theorem counterpart_ends_iff : ∀ row ∈ d.events, ∀ row' ∈ d.events, row.Counterpart row' →
    row.kind ∈ [.fault, .missing] →
      (row'.kind = row.kind.ending ↔ row.description ∉ lastingEvents) := by
  cases d <;> decide +kernel

/-- An event that raises an alert raises one with the other status too, unless it is unpaired. -/
theorem classify_opposite_iff (h : d.classify description status = some (kind, severity)) :
    (d.classify description status.opposite).isSome = true ↔ ¬ d.Unpaired description status := by
  by_cases hd : d = .fan
  · -- The status of a fan's event does not count.
    subst hd
    have hsame : classify .fan description status.opposite = classify .fan description status := rfl
    rw [hsame, h]
    exact iff_of_true rfl fun hunpaired => nomatch hunpaired.1
  · have hrow := (classify_eq_some_iff hd).1 h
    rw [← exists_counterpart_iff _ hrow, Option.isSome_iff_exists]
    constructor
    · rintro ⟨⟨kind', severity'⟩, h'⟩
      exact ⟨_, (classify_eq_some_iff hd).1 h', rfl, rfl⟩
    · rintro ⟨row', hrow', hdescription, hstatus⟩
      have h' := classify_row row' hrow'
      rw [hdescription, hstatus] at h'
      exact ⟨_, h'⟩

/-- With the other status, an event that raises a fault or tells that something is missing tells that
this has ended, unless it raises a fault with either status. -/
theorem classify_opposite_kind (h : d.classify description status = some (kind, severity))
    (hkind : kind ∈ [.fault, .missing])
    (h' : d.classify description status.opposite = some (kind', severity')) :
    kind' = kind.ending ↔ description ∉ lastingEvents := by
  have hd : d ≠ .fan := by
    rintro rfl
    obtain ⟨c, -, heq⟩ := Option.map_eq_some_iff.1 h
    cases heq
    simp at hkind
  exact counterpart_ends_iff _ ((classify_eq_some_iff hd).1 h) _ ((classify_eq_some_iff hd).1 h')
    ⟨rfl, rfl⟩ hkind

end Device

/-! ## Entries that differ in their status -/

theorem LogEntry.exists_line {lines : List String} {e : LogEntry} (he : e ∈ parseLines lines) :
    ∃ line, parse line = .ok e := by
  obtain ⟨line, -, hline⟩ := List.mem_filterMap.1 he
  split at hline
  · cases hline
  · cases hparse : parse line with
    | error _ =>
      rw [hparse] at hline
      cases hline
    | ok e' =>
      rw [hparse] at hline
      cases hline
      exact ⟨line, hparse⟩

namespace LogSensor

variable {s s' : LogSensor} {e e' : LogEntry} {d d' : Device} {sensorId sensorId' : String}

theorem alertable_of_target (h : s.target? e = some (d, sensorId)) :
    s.alertable e = (d.classify e.description e.status).isSome := by
  rw [alertable, h]

theorem device_of_target (h : s.target? e = some (d, sensorId)) :
    Device.parse? e.deviceType = some d := by
  obtain ⟨device, hdevice, hrest⟩ := Option.bind_eq_some_iff.1 h
  obtain ⟨number, -, hrest⟩ := Option.bind_eq_some_iff.1 hrest
  obtain ⟨name, -, hname⟩ := Option.bind_eq_some_iff.1 hrest
  cases hname
  exact hdevice

/-- Entries with one label are about devices of one type. -/
theorem device_of_label {line line' : String} (hline : LogEntry.parse line = .ok e)
    (hline' : LogEntry.parse line' = .ok e') (hlabel : e'.deviceLabel = e.deviceLabel)
    (h : s.target? e = some (d, sensorId)) (h' : s'.target? e' = some (d', sensorId')) : d' = d := by
  have htype : e'.deviceType = e.deviceType := by
    rw [(LogEntry.splitLabel_of_parse hline').1, hlabel, (LogEntry.splitLabel_of_parse hline).1]
  have hdevice := device_of_target h'
  rw [htype, device_of_target h] at hdevice
  exact (Option.some.inj hdevice).symm

end LogSensor

/-! ## Alerts of handled entries -/

namespace LogSensor

/-- An entry has been handled, and the alert that tells of it has been delivered right before. -/
def Yields (s : LogSensor) (e : LogEntry) (evs : List Event) : Prop :=
  ∃ (u : TailPlan.Unseen) (r : Report), u.entry = e ∧ r.Of s u ∧
    r.events s u ++ [⟨.handled u, ()⟩] <:+: evs

/-- Since then, only entries of lines have been handled, and each that raises an alert has yielded it. -/
def Faithful (s : LogSensor) (w v : World) : Prop :=
  ∃ evs, w.Adds v evs ∧ ∀ e ∈ handled evs,
    (∃ line, LogEntry.parse line = .ok e) ∧ (s.alertable e = true → s.Yields e evs)

variable {s : LogSensor} {e : LogEntry} {evs evs' : List Event} {u v w : World}

theorem Yields.mono (h : s.Yields e evs) (hevs : evs <:+: evs') : s.Yields e evs' := by
  obtain ⟨x, r, hx, hof, hevents⟩ := h
  exact ⟨x, r, hx, hof, hevents.trans hevs⟩

theorem Yields.alertable (h : s.Yields e evs) : s.alertable e = true := by
  obtain ⟨x, r, rfl, hof, -⟩ := h
  exact hof.alertable

theorem Faithful.of_unhandled (hevs : w.Adds v evs) (hnone : handled evs = []) :
    s.Faithful w v :=
  ⟨evs, hevs, by simp [hnone]⟩

theorem Faithful.refl (w : World) : s.Faithful w w := .of_unhandled (.refl w) rfl

theorem Faithful.trans (h : s.Faithful u v) (h' : s.Faithful v w) : s.Faithful u w := by
  obtain ⟨evs, hevs, hyields⟩ := h
  obtain ⟨evs', hevs', hyields'⟩ := h'
  refine ⟨evs ++ evs', hevs.trans hevs', fun e he => ?_⟩
  rw [handled_append] at he
  rcases List.mem_append.1 he with hfirst | hlater
  · obtain ⟨hline, halert⟩ := hyields e hfirst
    exact ⟨hline, fun h => (halert h).mono (List.prefix_append evs evs').isInfix⟩
  · obtain ⟨hline, halert⟩ := hyields' e hlater
    exact ⟨hline, fun h => (halert h).mono (List.suffix_append evs evs').isInfix⟩

/-- Alerts have nothing to do with whether the cursor is written. -/
theorem Faithful.of_unsaved {unsaved : Bool}
    (h : ({ s with cursorUnsaved := unsaved } : LogSensor).Faithful w v) : s.Faithful w v := by
  obtain ⟨evs, hevs, hyields⟩ := h
  refine ⟨evs, hevs, fun e he => ⟨(hyields e he).1, fun halert => ?_⟩⟩
  obtain ⟨x, r, hx, hof, hevents⟩ := (hyields e he).2 halert
  exact ⟨x, r, hx, ⟨hof.target, hof.classified, hof.described⟩, hevents⟩

/-- What goes on faithfully from a world goes on so from an earlier one. -/
theorem Faithful.goesOn {ρ : Rules} {α : Type} {p : ActProgram α} (h : s.Faithful w v)
    (hp : Ensures ρ.Step (s.Faithful v) p v fun _ v' => s.Faithful v v') :
    Ensures ρ.Step (s.Faithful w) p v fun _ v' => s.Faithful w v' :=
  hp.mono (fun _ h' => h.trans h') fun _ _ _ h' => h.trans h'

end LogSensor

theorem Report.handled_events (r : Report) (s : LogSensor) (x : TailPlan.Unseen) :
    handled (r.events s x) = [] := by
  have hclock : handled (Device.clockEvents s.zone x.entry r.clock) = [] := by
    unfold Device.clockEvents
    split <;> rfl
  rw [events, requests, handled_append, handled_append, handled_append, hclock]
  rfl

section
variable {ρ : Rules} (hρ : ρ.Orderly) (s : LogSensor)
include hρ

/-- The requests of a sensor handle no entry by themselves. -/
theorem ensures_acts_faithful {α : Type} (p : SensorProgram α) (w : World) :
    Ensures ρ.Step (s.Faithful w) (acts p) w fun _ v => s.Faithful w v := by
  have hrequests : Only (fun _ => True) p := by
    induction p with
    | done a => trivial
    | call r k ih => exact ⟨trivial, ih⟩
  have hasks : Only (fun a => ∃ r, a = Act.ask r) (acts p) := hrequests.acts fun r _ => ⟨r, rfl⟩
  intro o v hrun
  obtain ⟨evs, hevs⟩ := exists_events hρ hrun
  have hnone : handled evs = [] := by
    refine List.filterMap_eq_nil_iff.2 fun ev hev => ?_
    obtain ⟨act, answer⟩ := ev
    obtain ⟨r, rfl⟩ := hasks.events hρ hrun hevs _ hev
    rfl
  have hfaithful : s.Faithful w v := .of_unhandled hevs hnone
  exact ⟨hfaithful, fun _ _ => hfaithful⟩

/-- Each entry is reported before the act that tells of its handling. -/
theorem ensures_dispatchActs_faithful {us : List TailPlan.Unseen}
    (hus : ∀ x ∈ us, ∃ line, LogEntry.parse line = .ok x.entry) (w : World) :
    Ensures ρ.Step (s.Faithful w) (s.dispatchActs us) w fun _ v => s.Faithful w v := by
  induction us generalizing w with
  | nil => exact .done (.refl w) (.refl w)
  | cons x us ih =>
    obtain ⟨hline, hlines⟩ := List.forall_mem_cons.1 hus
    refine Ensures.bind ((ensures_acts_faithful hρ s (s.dispatchEntry x) w).and
      (ensures_dispatchEntry_reports hρ s x w)) ?_
    rintro a v ⟨hfirst, hentry⟩
    cases a with
    | error _ => exact .done hfirst hfirst
    | ok _ =>
      refine Ensures.call hfirst fun _ v₁ hstep => ?_
      have htold : v.Adds v₁ [⟨.handled x, ()⟩] := hstep.history hρ
      have hgo : s.Faithful w v₁ := by
        obtain ⟨-, hidle, rfl⟩ | ⟨-, r, hof, hevs⟩ | ⟨⟨_, herror⟩, -⟩ := hentry
        · refine ⟨_, htold, fun e he => ?_⟩
          obtain rfl : e = x.entry := List.mem_singleton.1 he
          exact ⟨hline, by simp [hidle]⟩
        · refine ⟨_, hevs.trans htold, fun e he => ?_⟩
          rw [handled_append, r.handled_events] at he
          obtain rfl : e = x.entry := List.mem_singleton.1 he
          exact ⟨hline, fun _ => ⟨x, r, rfl, hof, List.infix_rfl⟩⟩
        · cases herror
      exact hgo.goesOn (ih hlines v₁)

theorem ensures_handleActs_faithful (lines : List String) (w : World) :
    Ensures ρ.Step (s.Faithful w) (s.handleActs lines) w fun _ v => s.Faithful w v := by
  have hlines : ∀ x ∈ (TailPlan.make (LogEntry.parseLines lines) s.cursor).unseen,
      ∃ line, LogEntry.parse line = .ok x.entry := by
    intro x hx
    have htodo : x.entry ∈ TailPlan.todo (LogEntry.parseLines lines) s.cursor :=
      List.mem_map_of_mem hx
    exact LogEntry.exists_line ((TailPlan.todo_suffix _ _).subset htodo)
  refine Ensures.call (.refl w) fun _ v hstep => ?_
  rw [bind_done]
  have hplan : s.Faithful w v := .of_unhandled (hstep.history hρ) rfl
  refine Ensures.bind (hplan.goesOn (ensures_dispatchActs_faithful hρ s hlines v)) fun a v₁ h => ?_
  cases a with
  | error _ => exact .done h h
  | ok _ =>
    refine Ensures.bind (h.goesOn (ensures_acts_faithful hρ s (s.commit _) v₁)) fun _ _ h' => ?_
    exact .done h' h'

theorem ensures_processActs_faithful (w : World) :
    Ensures ρ.Step (s.Faithful w) s.processActs w fun _ v => s.Faithful w v := by
  refine Ensures.bind ((ensures_acts_faithful hρ s s.retryCursor w).and
    (ensures_retryCursor_rests hρ s w)) ?_
  rintro _ v ⟨hretry, ⟨unsaved, rfl⟩, -⟩
  refine Ensures.bind (hretry.goesOn (ensures_acts_faithful hρ s _ v)) fun r v₁ h => ?_
  rcases r with _ | _ | lines
  · exact .done h h
  · exact .done h h
  · have hhandle := ensures_handleActs_faithful hρ { s with cursorUnsaved := unsaved } lines v₁
    exact h.goesOn (hhandle.mono (fun _ h' => h'.of_unsaved) fun _ _ _ h' => h'.of_unsaved)

/-- A cycle delivers the alerts of the entries that it handles, wherever it is cut short. -/
theorem ensures_pollActs_faithful (now : Nat) (w : World) :
    Ensures ρ.Step (s.Faithful w) (s.pollActs now) w fun _ v => s.Faithful w v := by
  refine Ensures.bind (ensures_processActs_faithful hρ s w) ?_
  rintro ⟨r, s'⟩ v h
  cases r with
  | error _ => exact .done h h
  | ok _ =>
    have husage := ensures_acts_faithful hρ s (s'.checkUsage now) v
    refine Ensures.bind (h.goesOn husage) fun _ _ h' => ?_
    exact .done h' h'

end

/-! ## What a completed cycle has handled -/

namespace LogSensor

/-- The events of a cycle that has run to its end `o`, or has been cut short. -/
def Cycle (s : LogSensor) (evs : List Event) (o : Option (Outcome × LogSensor)) : Prop :=
  ∃ (ρ : Rules) (now : Nat) (w v : World), ρ.Orderly ∧ Runs ρ.Step (s.pollActs now) w o v ∧
    v.history = w.history ++ evs

variable {s s' : LogSensor} {e : LogEntry} {evs : List Event} {w v : World}
  {o : Option (Outcome × LogSensor)}

theorem Cycle.faithful (h : s.Cycle evs o) (he : e ∈ handled evs) :
    (∃ line, LogEntry.parse line = .ok e) ∧ (s.alertable e = true → s.Yields e evs) := by
  obtain ⟨ρ, now, w, v, hρ, hrun, hevs⟩ := h
  obtain ⟨evs', hevs', hfaithful⟩ := (ensures_pollActs_faithful hρ s now w _ v hrun).1
  obtain rfl : evs = evs' := List.append_cancel_left (hevs.symm.trans hevs')
  exact hfaithful e he

theorem Cycle.yields_iff (h : s.Cycle evs o) (he : e ∈ handled evs) :
    s.Yields e evs ↔ s.alertable e = true :=
  ⟨Yields.alertable, (h.faithful he).2⟩

/-- These events tell that all has been handled that their plan leaves to do. -/
def Finishes (s : LogSensor) (evs : List Event) : Prop :=
  handled evs = TailPlan.todo (planned evs) s.cursor

theorem Finishes.of_silent (h : ∀ ev ∈ evs, ev.act.task ≠ .report) : s.Finishes evs := by
  obtain ⟨hhandled, -, hplanned⟩ := silent_of_tasks h
  rw [Finishes, hhandled, hplanned]
  rfl

/-- What does not serve to deliver alerts can stand before and after the plan. -/
theorem Finishes.between (h : s.Finishes evs) (before after : List Event)
    (hbefore : ∀ ev ∈ before, ev.act.task ≠ .report)
    (hafter : ∀ ev ∈ after, ev.act.task ≠ .report) : s.Finishes (before ++ evs ++ after) := by
  obtain ⟨hhandled, -, hplanned⟩ := silent_of_tasks hbefore
  obtain ⟨hhandled', -, hplanned'⟩ := silent_of_tasks hafter
  rw [Finishes, handled_append, handled_append, planned_append, planned_append, hhandled, hplanned,
    hhandled', hplanned', List.append_nil, List.append_nil]
  exact h

theorem Processed.finishes {r : Except SourceError Unit} (h : s.Processed w v evs r s')
    (hall : ∀ ev ∈ evs, ev.undescribed = false) : s.Finishes evs := by
  cases h with
  | unread hloaded => exact .of_silent (task_ne hloaded.tasks (by decide))
  | unlisted hloaded => exact .of_silent (task_ne hloaded.tasks (by decide))
  | stopped hloaded hkept hdispatched =>
    cases hdispatched with
    | stopped hunseen hhandled hterminal hlost =>
      have hnone :=
        hall _ (List.mem_append_right _ (.tail _ (List.mem_append_right _ (.head _))))
      rw [hlost] at hnone
      cases hnone
  | @through _ handling _ lines _ _ hloaded hdispatched hstoring =>
    cases hdispatched with
    | through hhandled =>
      have hplan : s.Finishes (⟨.plan (LogEntry.parseLines lines)
          (TailPlan.make (LogEntry.parseLines lines) s.cursor), ()⟩ :: handling) := by
        have hplanned : planned (⟨.plan (LogEntry.parseLines lines)
            (TailPlan.make (LogEntry.parseLines lines) s.cursor), ()⟩ :: handling) =
            LogEntry.parseLines lines := by
          rw [planned, List.flatMap_cons, ← planned, hhandled.planned, List.append_nil]
          rfl
        rw [Finishes, hplanned]
        exact hhandled.handled
      exact hplan.between _ _ (task_ne hloaded.tasks (by decide)) (task_ne hstoring (by decide))

/-- A completed cycle, in which the management tool was there to describe the sensors, has handled all
that its plan left to do. -/
theorem Cycle.finishes {r : Outcome × LogSensor} (hst : s.store.Apart) (h : s.Cycle evs (some r))
    (hall : ∀ ev ∈ evs, ev.undescribed = false) : s.Finishes evs := by
  obtain ⟨ρ, now, w, v, hρ, hrun, hevs⟩ := h
  have hprocess : ∀ {r s' u evs}, Runs ρ.Step s.processActs w (some (r, s')) u →
      u.history = w.history ++ evs → (∀ ev ∈ evs, ev.undescribed = false) → s.Finishes evs := by
    intro r s' u evs hrun hevs hall
    obtain ⟨s₁, t, evs₁, hretry, hevs₁, hprocessed⟩ := runs_processActs hρ hst hrun
    obtain ⟨evs₀, hevs₀⟩ := exists_events hρ hretry
    obtain ⟨⟨unsaved, rfl⟩, -⟩ := runs_retryCursor hρ hst hretry
    obtain rfl := events_append hevs hevs₀ hevs₁
    have hstored := (onlyFor_retryCursor s).events hρ hretry hevs₀
    have hfinishes : s.Finishes evs₁ :=
      hprocessed.finishes fun ev hev => hall ev (List.mem_append_right _ hev)
    have hwhole := hfinishes.between evs₀ [] (task_ne hstored (by decide)) (by simp)
    rwa [List.append_nil] at hwhole
  obtain ⟨e, hfailed, -⟩ | ⟨s₁, u, r, hdone, hcheck, -⟩ := runs_pollActs hrun
  · exact hprocess hfailed hevs hall
  · obtain ⟨evs₁, hevs₁⟩ := exists_events hρ hdone
    obtain ⟨evs₂, hevs₂⟩ := exists_events hρ hcheck
    obtain rfl := events_append hevs hevs₁ hevs₂
    have htasks := (onlyFor_checkUsage s₁ now).events hρ hcheck hevs₂
    have hfinishes := hprocess hdone hevs₁ fun ev hev => hall ev (List.mem_append_left _ hev)
    exact hfinishes.between [] evs₂ (by simp) (task_ne htasks (by decide))

end LogSensor

/-! ## The alerts of a beginning and an end -/

/-- **What the log says to have begun, it can say to have ended.** An event that raises an alert raises one
with the other status too, and if the alert is of a fault or of something missing, the other one tells
the end, unless the event lasts. Of two entries with one label that tell of the event with the one and
with the other status, handled in one cycle or in two and each with a known sensor number, both have had
their alerts delivered. All this is so but for the power down of a power unit. A completed cycle has
handled all that its plan left to do, unless the management tool was gone. -/
theorem counterpart_yields_iff {d : Device} {description : String} {status : Assertion}
    {kind : AlertKind} {severity : Severity}
    (h : d.classify description status = some (kind, severity)) :
    ((d.classify description status.opposite).isSome = true ↔ ¬ d.Unpaired description status) ∧
    (kind ∈ [.fault, .missing] → ∀ kind' severity',
      d.classify description status.opposite = some (kind', severity') →
        (kind' = kind.ending ↔ description ∉ Device.lastingEvents)) ∧
    (∀ (s s' : LogSensor) (evs evs' : List Event) (o o' : Option (Outcome × LogSensor))
      (e e' : LogEntry) (d' : Device) (sensorId sensorId' : String),
      s.Cycle evs o → e ∈ handled evs → s'.Cycle evs' o' → e' ∈ handled evs' →
      e'.deviceLabel = e.deviceLabel →
      e.description = description → e.status = status →
      e'.description = description → e'.status = status.opposite →
      s.target? e = some (d, sensorId) → s'.target? e' = some (d', sensorId') →
        s.Yields e evs ∧ (s'.Yields e' evs' ↔ ¬ d.Unpaired description status)) ∧
    ∀ (s : LogSensor) (evs : List Event) (r : Outcome × LogSensor), s.store.Apart →
      s.Cycle evs (some r) → (∀ ev ∈ evs, ev.undescribed = false) →
        handled evs = TailPlan.todo (planned evs) s.cursor := by
  have hopposite := Device.classify_opposite_iff h
  refine ⟨hopposite, fun hkind kind' severity' h' => Device.classify_opposite_kind h hkind h', ?_,
    fun s evs r hst hcycle hall => hcycle.finishes hst hall⟩
  intro s s' evs evs' o o' e e' d' sensorId sensorId' hcycle he hcycle' he' hlabel hdescription
    hstatus hdescription' hstatus' htarget htarget'
  obtain ⟨⟨line, hline⟩, -⟩ := hcycle.faithful he
  obtain ⟨⟨line', hline'⟩, -⟩ := hcycle'.faithful he'
  obtain rfl := LogSensor.device_of_label hline hline' hlabel htarget htarget'
  constructor
  · rw [hcycle.yields_iff he, LogSensor.alertable_of_target htarget, hdescription, hstatus, h]
    rfl
  · rw [hcycle'.yields_iff he', LogSensor.alertable_of_target htarget', hdescription', hstatus']
    exact hopposite

/-! ## Trials -/

namespace EndingTrial

/-- A sensor that knows a power unit and a drive. -/
def sensor : LogSensor := { Trial.sensor with
  numbers := (SensorNumbers.empty.insert .powerUnit "70" "Pwr Unit").insert .driveSlot "f1" "HDD 1" }

/-- The sensor beside a log, before its first cycle. -/
def ready (log : String) : Machine := ⟨some sensor, (Trial.fresh log).world⟩

def events (log : String) : List Event :=
  (ready log).eventsTo ((ready log).cycle Trial.keeping 100 0)

theorem exists_cycle (log : String)
    (h : (ready log).outcome Trial.keeping 100 0 = some .proceed) :
    ∃ r, sensor.Cycle (events log) (some r) := by
  have hρ := Rules.still_still.orderly
  obtain ⟨s, s', hs, -, hrun, hevs⟩ := Machine.exists_completed hρ Trial.keeping.obey_still h
  cases hs
  exact ⟨_, .still, 0, _, _, hρ, hrun, hevs⟩

def removed : LogEntry := ⟨1, "", "", "Drive Slot / Bay #0xF1", "Drive Slot / Bay", some "f1",
  "Drive Present", .deasserted⟩

def putBack : LogEntry := { removed with index := 2, status := .asserted }

def driveLog : String :=
  "1|||Drive Slot / Bay #0xF1|Drive Present|Deasserted\nnoise\n" ++
    "2|||Drive Slot / Bay #0xF1|Drive Present|Asserted\n"

/-- A power unit goes down. -/
def wentDown : LogEntry := ⟨1, "", "", "Power Unit #0x70", "Power Unit", some "70",
  "240VA power down", .asserted⟩

/-- The power unit has come up again. -/
def cameUp : LogEntry := { wentDown with index := 2, status := .deasserted }

def powerLog : String :=
  "1|||Power Unit #0x70|240VA power down|Asserted\n" ++
    "2|||Power Unit #0x70|240VA power down|Deasserted\n"

end EndingTrial

open EndingTrial in
/-- The removal of a drive and its return are both reported. -/
theorem counterpart_yields_removed_drive :
    Device.driveSlot.classify "Drive Present" .deasserted = some (.missing, .critical) ∧
    (Device.driveSlot.classify "Drive Present" .asserted).isSome = true ∧
    ∃ r, sensor.Cycle (events driveLog) (some r) ∧
      TailPlan.todo (planned (events driveLog)) sensor.cursor = [removed, putBack] ∧
      sensor.Yields removed (events driveLog) ∧ sensor.Yields putBack (events driveLog) := by
  have hremoved : Device.driveSlot.classify "Drive Present" .deasserted =
      some (.missing, .critical) := by decide +kernel
  have hpaired : ¬ Device.driveSlot.Unpaired "Drive Present" .deasserted := by decide
  obtain ⟨hopposite, -, hyields, hfinishes⟩ := counterpart_yields_iff hremoved
  obtain ⟨hdone, hhandled, hall⟩ : (ready driveLog).outcome Trial.keeping 100 0 = some .proceed ∧
      handled (events driveLog) = [removed, putBack] ∧
      (events driveLog).all (!·.undescribed) = true := by decide +kernel
  obtain ⟨r, hcycle⟩ := exists_cycle driveLog hdone
  have hdescribed : ∀ ev ∈ events driveLog, ev.undescribed = false := by simpa using hall
  obtain ⟨hfirst, hsecond⟩ := hyields sensor sensor _ _ _ _ removed putBack .driveSlot "HDD 1"
    "HDD 1" hcycle (by simp [hhandled]) hcycle (by simp [hhandled]) rfl rfl rfl rfl rfl
    (by decide +kernel) (by decide +kernel)
  refine ⟨hremoved, hopposite.2 hpaired, r, hcycle, ?_, hfirst, hsecond.2 hpaired⟩
  rw [← hfinishes sensor _ r (LogStore.inFolder_apart _) hcycle hdescribed, hhandled]

open EndingTrial in
/-- The fault of a power unit that has gone down raises an alert, and its end raises none, though both
entries are handled and the sensor is known. -/
theorem power_down_never_ends :
    Device.powerUnit.classify "240VA power down" .asserted = some (.fault, .critical) ∧
    Device.powerUnit.classify "240VA power down" .deasserted = none ∧
    ∃ r, sensor.Cycle (events powerLog) (some r) ∧
      handled (events powerLog) = [wentDown, cameUp] ∧
      sensor.target? cameUp = some (.powerUnit, "Pwr Unit") ∧
      (delivered (events powerLog)).map (·.kind) = [.fault] ∧
      sensor.Yields wentDown (events powerLog) ∧ ¬ sensor.Yields cameUp (events powerLog) := by
  obtain ⟨hdone, hhandled, hdelivered⟩ :
      (ready powerLog).outcome Trial.keeping 100 0 = some .proceed ∧
      handled (events powerLog) = [wentDown, cameUp] ∧
      (delivered (events powerLog)).map (·.kind) = [.fault] := by decide +kernel
  obtain ⟨r, hcycle⟩ := exists_cycle powerLog hdone
  have hdown := hcycle.yields_iff (e := wentDown) (by simp [hhandled])
  have hup := hcycle.yields_iff (e := cameUp) (by simp [hhandled])
  refine ⟨by decide +kernel, by decide +kernel, r, hcycle, hhandled, by decide +kernel,
    hdelivered, hdown.2 (by decide +kernel), fun h => ?_⟩
  have hsilent : sensor.alertable cameUp = false := by decide +kernel
  rw [hup.1 h] at hsilent
  cases hsilent

end HealthAgent
