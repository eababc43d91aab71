import HealthAgent.Proofs.Enclosure.Cycle
import HealthAgent.Proofs.EventLog.Replies
import HealthAgent.Proofs.EventLog.Reports
/-!
# Who publishes live readings

A live reading is that of the moment of the request. It belongs to the last unseen entry of a device
type only; the plan marks that entry, and the alerts of all others go without. The names of live
readings cannot come in by another way: they are taken out of the static properties when a description
is read. One of them is written by the agent itself, as a mark for a drive slot that tells nothing.

Results:
* `TailPlan.exists_terminal_mark`: in a plan, one entry of each device type is terminal, the last one.
* `Device.get?_keptProps_live`: what a draft tells under the names of live readings.
* `Device.keptProps_congr`: what a draft keeps does not depend on the values of live readings.
* `live_readings_of_last`: in the plan, in the alerts of a cycle, and in two runs side by side.
-/
namespace HealthAgent
open Program World

/-! ## The plan -/

namespace TailPlan

theorem unseen_eq (entries : List LogEntry) (cursor : UInt64) :
    (make entries cursor).unseen = markTerminal ((after? cursor entries).getD entries) := by
  unfold make
  cases after? cursor entries <;> rfl

/-- The mark of an entry tells whether none of the later entries has its device type. -/
theorem all_ne_iff (entries : List LogEntry) (type : String) :
    (entries.all (·.deviceType ≠ type)) = true ↔
      ∀ x ∈ markTerminal entries, x.entry.deviceType ≠ type := by
  conv_lhs => rw [← map_entry_markTerminal entries]
  simp [List.all_map]

/-- The last of the entries of a device type is terminal, and none before it is. -/
theorem exists_terminal_mark {entries : List LogEntry} {type : String}
    (h : ∃ u ∈ markTerminal entries, u.entry.deviceType = type) :
    ∃ (before : List Unseen) (u : Unseen) (after : List Unseen),
      markTerminal entries = before ++ u :: after ∧ u.entry.deviceType = type ∧ u.terminal = true ∧
      (∀ x ∈ before, x.entry.deviceType = type → x.terminal = false) ∧
      ∀ x ∈ after, x.entry.deviceType ≠ type := by
  induction entries with
  | nil => simp [markTerminal] at h
  | cons e rest ih =>
    by_cases hlater : ∃ u ∈ markTerminal rest, u.entry.deviceType = type
    · obtain ⟨before, u, after, hsplit, htype, hterminal, hbefore, hafter⟩ := ih hlater
      refine ⟨_ :: before, u, after, by rw [markTerminal, hsplit]; rfl, htype, hterminal, ?_, hafter⟩
      refine List.forall_mem_cons.2 ⟨fun hfirst => ?_, hbefore⟩
      -- The entry has a later one of its type, so it is not the last.
      rw [← Bool.not_eq_true, all_ne_iff]
      intro hnone
      obtain ⟨u', hu', htype'⟩ := hlater
      exact hnone u' hu' (htype'.trans hfirst.symm)
    · have hrest : ∀ x ∈ markTerminal rest, x.entry.deviceType ≠ type :=
        fun x hx heq => hlater ⟨x, hx, heq⟩
      obtain ⟨u, hu, htype⟩ := h
      obtain rfl := (List.mem_cons.1 hu).resolve_right fun hmem => hrest u hmem htype
      refine ⟨[], _, markTerminal rest, rfl, htype, ?_, by simp, hrest⟩
      rw [← htype] at hrest
      exact (all_ne_iff rest e.deviceType).2 hrest

end TailPlan

/-! ## Properties -/

namespace SensorProps

def liveNames : List String := [sensorReadingName, statesAssertedName]

/-- The names of live readings are no names of other properties that an alert tells. -/
theorem liveNames_apart : ∀ k ∈ liveNames, k ∈ ownNames ∧ k ∉ fanThresholdNames ∧
    k ≠ entityIdName ∧ k ≠ sensorIdName ∧ k ≠ sensorTypeName := by decide

/-- No property with a field of its own is a static property. -/
def Sifted (p : SensorProps) : Prop := ∀ k ∈ ownNames, p.staticProps.get? k = none

/-- The properties differ in nothing but the values of the live readings. -/
structure Alike (p q : SensorProps) : Prop where
  sensorId : p.sensorId = q.sensorId
  entityId : p.entityId = q.entityId
  staticProps : p.staticProps = q.staticProps
  sensorReading : p.sensorReading.isSome = q.sensorReading.isSome
  statesAsserted : p.statesAsserted.isSome = q.statesAsserted.isSome

theorem sifted_ofDict (pairs : Dict String) : (ofDict pairs).Sifted := fun k hk => by
  rw [get?_staticProps_ofDict, if_pos hk]

theorem Alike.isEmpty_eq {p q : SensorProps} (h : p.Alike q) : p.isEmpty = q.isEmpty := by
  have hreading : p.sensorReading.isNone = q.sensorReading.isNone := by
    rw [← Option.not_isSome, h.sensorReading, Option.not_isSome]
  have hstates : p.statesAsserted.isNone = q.statesAsserted.isNone := by
    rw [← Option.not_isSome, h.statesAsserted, Option.not_isSome]
  rw [isEmpty, hreading, hstates, h.staticProps, ← isEmpty]

end SensorProps

namespace Device

theorem sifted_of_read {d : Device} {reply : Except SourceError String} {p : SensorProps}
    (h : d.read reply = .ok p) : p.Sifted := by
  cases reply with
  | ok text =>
    cases h
    cases d <;> exact SensorProps.sifted_ofDict _
  | error e =>
    rw [read] at h
    split at h
    · cases h
    · cases h
      exact fun _ _ => rfl

/-- Under the names of live readings, a draft tells nothing but the mark for a drive slot of which
nothing is known. -/
theorem get?_keptProps_live {p : SensorProps} (hp : p.Sifted) (d : Device) {k : String}
    (hk : k ∈ SensorProps.liveNames) : (d.keptProps p).get? k =
      if d = .driveSlot ∧ p.isEmpty = true ∧ k = SensorProps.statesAssertedName then
        some notAvailable
      else none := by
  obtain ⟨hown, hfan, hentity, hsensor, htype⟩ := SensorProps.liveNames_apart k hk
  have hstatic := hp k hown
  have hpower : (SensorProps.named SensorProps.entityIdName p.entityId
      (SensorProps.named SensorProps.sensorIdName p.sensorId p.staticProps)).get? k = none := by
    rw [SensorProps.get?_named, if_neg hentity, SensorProps.get?_named, if_neg hsensor, hstatic]
  cases d with
  | fan => simp [get?_keptProps_fan, hfan]
  | powerSupply => simpa [keptProps] using hpower
  | powerUnit => simpa [keptProps] using hpower
  | driveSlot =>
    cases hempty : p.isEmpty with
    | true =>
      have hnone : (Dict.empty : Attributes).get? k = none := rfl
      simp [keptProps, hempty, Dict.get?_insert, htype, hnone]
    | false => simpa [keptProps, hempty] using hstatic

/-- What a draft keeps does not depend on the values of live readings. -/
theorem keptProps_congr (d : Device) {p q : SensorProps} (h : p.Alike q) :
    d.keptProps p = d.keptProps q := by
  unfold keptProps
  rw [h.staticProps, h.entityId, h.sensorId, h.isEmpty_eq]

end Device

/-! ## Reports -/

namespace Report

variable {r r' : Report} {s : LogSensor} {u : TailPlan.Unseen}

/-- The alert of an entry that is not the last of its device type has no live reading, but may have the
mark for a drive slot of which nothing is known. -/
theorem Of.readings (h : r.Of s u) (hu : u.terminal = false) :
    (r.alert s u).specificInfo.get? SensorProps.sensorReadingName = none ∧
      ∀ value, (r.alert s u).specificInfo.get? SensorProps.statesAssertedName = some value →
        value = notAvailable ∧ r.device = .driveSlot ∧ r.props.isEmpty = true := by
  have hlive := fun k => Device.get?_keptProps_live (k := k) (Device.sifted_of_read h.described) r.device
  have hdraft : ∀ k, (r.alert s u).specificInfo.get? k =
      (if k ∈ listingNames then Option.map fun v => .ofList (flattenListing v.toList) else id)
        (if k = "event" then some (r.device.eventText u.entry)
          else if k = "fru_id" then some u.entry.deviceLabel
          else (r.device.keptProps r.props).get? k) := by
    intro k
    rw [alert, AlertContext.get?_assemble, Device.get?_draftOf]
    simp only [Device.draftOf, hu, Bool.false_eq_true, if_false]
  constructor
  · rw [hdraft, if_neg (by decide), if_neg (by decide), if_neg (by decide), hlive _ (.head _),
      if_neg fun hmark => absurd hmark.2.2 (by decide)]
    rfl
  · intro value hvalue
    rw [hdraft, if_pos (by decide), if_neg (by decide), if_neg (by decide),
      hlive _ (.tail _ (.head _))] at hvalue
    split at hvalue
    · next hmark =>
      refine ⟨?_, hmark.1, hmark.2.1⟩
      rw [Option.map_some, Option.some.injEq] at hvalue
      rw [← hvalue]
      decide
    · cases hvalue

/-- What a report is about follows from the entry. -/
theorem Of.same (h : r.Of s u) (h' : r'.Of s u) :
    r.device = r'.device ∧ r.sensorId = r'.sensorId ∧ r.kind = r'.kind ∧ r.severity = r'.severity := by
  have htarget := h.target.symm.trans h'.target
  simp only [Option.some.injEq, Prod.mk.injEq] at htarget
  obtain ⟨hdevice, hid⟩ := htarget
  have hclass := h.classified
  rw [hdevice, h'.classified] at hclass
  simp only [Option.some.injEq, Prod.mk.injEq] at hclass
  exact ⟨hdevice, hid, hclass.1.symm, hclass.2.symm⟩

/-- Two reports of such an entry whose descriptions differ in nothing but the values of live readings
have the same alert, up to its identity and time. -/
theorem Of.timeless_eq (h : r.Of s u) (h' : r'.Of s u) (hu : u.terminal = false)
    (halike : r.props.Alike r'.props) : (r.alert s u).timeless = (r'.alert s u).timeless := by
  obtain ⟨hdevice, hid, hkind, hseverity⟩ := h.same h'
  unfold alert AlertRecord.timeless AlertContext.assemble Device.draftOf
  simp only [hu, Bool.false_eq_true, if_false, ← hdevice, ← hid, ← hkind, ← hseverity,
    r.device.keptProps_congr halike]

theorem Of.props_eq (h : r.Of s u) {device : Device} {sensorId : String}
    (htarget : s.target? u.entry = some (device, sensorId)) {p : SensorProps}
    (hread : device.read r.reply = .ok p) : r.props = p := by
  have hsame := h.target.symm.trans htarget
  simp only [Option.some.injEq, Prod.mk.injEq] at hsame
  rw [← hsame.1, h.described] at hread
  exact Except.ok.inj hread

/-- The only reply of the controller in a report is the description. -/
theorem reply_of_mem {q : IpmiRequest} {reply : Except SourceError String}
    (h : ⟨.ask (.ipmi q), reply⟩ ∈ r.events s u) : reply = r.reply := by
  have hclock : ⟨.ask (.ipmi q), reply⟩ ∉ Device.clockEvents s.zone u.entry r.clock := by
    unfold Device.clockEvents
    split <;> simp
  simp only [events, requests, List.cons_append, List.append_assoc, List.mem_cons, List.mem_append,
    hclock, false_or] at h
  rcases h with h | h
  · cases h
    rfl
  · simp at h

theorem eventTime_alert (r : Report) (s : LogSensor) (u : TailPlan.Unseen) :
    (r.alert s u).info.eventTime = Device.eventTimeOr s.zone u.entry r.clock :=
  Device.eventTime_of_draft ..

theorem alertId_alert (r : Report) (s : LogSensor) (u : TailPlan.Unseen) :
    (r.alert s u).alertId = (r.alert s u).info.eventTime ++ r.salt := by
  rw [alert, AlertContext.assemble]

/-- The time of an alert is that of its entry, or told by the clock for the report. -/
theorem time_eq (r : Report) (s : LogSensor) (u : TailPlan.Unseen) :
    match Calendar.eventTime? s.zone u.entry.date u.entry.time with
    | some t => (r.alert s u).info.eventTime = toString t
    | none => ⟨.ask .clock, (r.alert s u).info.eventTime⟩ ∈ r.events s u := by
  rw [eventTime_alert]
  unfold events requests Device.eventTimeOr Device.clockEvents
  cases Calendar.eventTime? s.zone u.entry.date u.entry.time with
  | some t => rfl
  | none => exact .tail _ (.head _)

theorem salt_mem (r : Report) (s : LogSensor) (u : TailPlan.Unseen) :
    ⟨.ask .salt, r.salt⟩ ∈ r.events s u :=
  List.mem_append_left _ (List.mem_append_right _ (.head _))

end Report

/-- The alerts, each from its own events, are equal up to the random parts of their identities, and up
to times that the clock has told. -/
structure AlertRecord.SameButChance (evs evs' : List Event) (a b : AlertRecord) : Prop where
  timeless : a.timeless = b.timeless
  identity : ∃ salt : String, ⟨.ask .salt, salt⟩ ∈ evs ∧ a.alertId = a.info.eventTime ++ salt
  identity' : ∃ salt : String, ⟨.ask .salt, salt⟩ ∈ evs' ∧ b.alertId = b.info.eventTime ++ salt
  time : a.info.eventTime = b.info.eventTime ∨
    ⟨.ask .clock, a.info.eventTime⟩ ∈ evs ∧ ⟨.ask .clock, b.info.eventTime⟩ ∈ evs'

theorem Report.Of.sameButChance {r r' : Report} {s : LogSensor} {u : TailPlan.Unseen} (h : r.Of s u)
    (h' : r'.Of s u) (hu : u.terminal = false) (halike : r.props.Alike r'.props) :
    (r.alert s u).SameButChance (r.events s u) (r'.events s u) (r'.alert s u) where
  timeless := h.timeless_eq h' hu halike
  identity := ⟨r.salt, r.salt_mem s u, r.alertId_alert s u⟩
  identity' := ⟨r'.salt, r'.salt_mem s u, r'.alertId_alert s u⟩
  time := by
    have htime := r.time_eq s u
    have htime' := r'.time_eq s u
    cases htold : Calendar.eventTime? s.zone u.entry.date u.entry.time with
    | some t =>
      rw [htold] at htime htime'
      exact .inl (htime.trans htime'.symm)
    | none =>
      rw [htold] at htime htime'
      exact .inr ⟨htime, htime'⟩

section
variable {ρ : Rules} (hρ : ρ.Orderly)
include hρ

/-- An entry that has been handled, with a description of its sensor, has been reported. -/
theorem report_of_described {s : LogSensor} {u : TailPlan.Unseen} {w v : World} {evs : List Event}
    (h : Runs ρ.Step (acts (s.dispatchEntry u)) w (some (.ok ())) v) (hevs : w.Adds v evs)
    {q : IpmiRequest} {reply : Except SourceError String} (hmem : ⟨.ask (.ipmi q), reply⟩ ∈ evs) :
    ∃ r : Report, r.Of s u ∧ evs = r.events s u ∧ reply = r.reply := by
  obtain ⟨-, hidle, rfl⟩ | ⟨-, r, hof, hreport⟩ | ⟨⟨e, he⟩, -⟩ :=
    (ensures_dispatchEntry_reports hρ s u w _ v h).2 _ rfl
  · obtain rfl : evs = [] := List.append_cancel_left (hevs.symm.trans (List.append_nil _).symm)
    cases hmem
  · obtain rfl : evs = r.events s u := List.append_cancel_left (hevs.symm.trans hreport)
    exact ⟨r, hof, rfl, Report.reply_of_mem hmem⟩
  · cases he

/-- Two runs about an entry that is not the last of its device type, in which the descriptions of its
sensor differ in nothing but the values of live readings, deliver the same alert up to chance. -/
theorem dispatchEntry_same {s : LogSensor} {u : TailPlan.Unseen} (hu : u.terminal = false)
    {w v w' v' : World} {evs evs' : List Event}
    (h : Runs ρ.Step (acts (s.dispatchEntry u)) w (some (.ok ())) v) (hevs : w.Adds v evs)
    (h' : Runs ρ.Step (acts (s.dispatchEntry u)) w' (some (.ok ())) v') (hevs' : w'.Adds v' evs')
    {device : Device} {sensorId : String} (htarget : s.target? u.entry = some (device, sensorId))
    {reply reply' : Except SourceError String}
    (hmem : ⟨.ask (.ipmi (device.request sensorId)), reply⟩ ∈ evs)
    (hmem' : ⟨.ask (.ipmi (device.request sensorId)), reply'⟩ ∈ evs')
    {p p' : SensorProps} (hread : device.read reply = .ok p) (hread' : device.read reply' = .ok p')
    (halike : p.Alike p') : ∃ alert alert', delivered evs = [alert] ∧ delivered evs' = [alert'] ∧
      alert.SameButChance evs evs' alert' := by
  obtain ⟨r, hof, rfl, rfl⟩ := report_of_described hρ h hevs hmem
  obtain ⟨r', hof', rfl, rfl⟩ := report_of_described hρ h' hevs' hmem'
  have hprops := hof.props_eq htarget hread
  have hprops' := hof'.props_eq htarget hread'
  rw [← hprops, ← hprops'] at halike
  exact ⟨_, _, r.delivered_events s u, r'.delivered_events s u, hof.sameButChance hof' hu halike⟩

end

/-- Live readings are published for the last unseen entry of a device type only: in a plan, each device
type has one terminal entry, its last; the alerts of a cycle are those of unseen entries in order, and
one of an entry that is not terminal has no live reading; and of such an entry, descriptions that
differ in the values of live readings make the same alert, up to chance. -/
theorem live_readings_of_last {ρ : Rules} (hρ : ρ.Orderly) (s : LogSensor) :
    (∀ (entries : List LogEntry) (cursor : UInt64),
      (TailPlan.make entries cursor).unseen.map (·.entry) <:+ entries ∧
      ∀ type, (∃ u ∈ (TailPlan.make entries cursor).unseen, u.entry.deviceType = type) →
        ∃ (before : List TailPlan.Unseen) (u : TailPlan.Unseen) (after : List TailPlan.Unseen),
          (TailPlan.make entries cursor).unseen = before ++ u :: after ∧
          u.entry.deviceType = type ∧ u.terminal = true ∧
          (∀ x ∈ before, x.entry.deviceType = type → x.terminal = false) ∧
          ∀ x ∈ after, x.entry.deviceType ≠ type) ∧
    (∀ (now : Nat) (w v : World) (o : Option (Outcome × LogSensor)) (evs : List Event),
      Runs ρ.Step (s.pollActs now) w o v → w.Adds v evs →
      ∃ us, us <+: (TailPlan.make (planned evs) s.cursor).unseen.filter (s.alertable ·.entry) ∧
        List.Forall₂ (fun u alert => ∃ r : Report, r.Of s u ∧ r.events s u <:+: evs ∧
          alert = r.alert s u ∧
          (u.terminal = false →
            alert.specificInfo.get? SensorProps.sensorReadingName = none ∧
            ∀ value, alert.specificInfo.get? SensorProps.statesAssertedName = some value →
              value = notAvailable ∧ r.device = .driveSlot ∧ r.props.isEmpty = true))
          us (delivered evs)) ∧
    ∀ (u : TailPlan.Unseen) (w w' v v' : World) (evs evs' : List Event) (device : Device)
      (sensorId : String) (reply reply' : Except SourceError String) (p p' : SensorProps),
      u.terminal = false → s.target? u.entry = some (device, sensorId) →
      Runs ρ.Step (acts (s.dispatchEntry u)) w (some (.ok ())) v → w.Adds v evs →
      Runs ρ.Step (acts (s.dispatchEntry u)) w' (some (.ok ())) v' → w'.Adds v' evs' →
      ⟨.ask (.ipmi (device.request sensorId)), reply⟩ ∈ evs →
      ⟨.ask (.ipmi (device.request sensorId)), reply'⟩ ∈ evs' →
      device.read reply = .ok p → device.read reply' = .ok p' → p.Alike p' →
      ∃ alert alert', delivered evs = [alert] ∧ delivered evs' = [alert'] ∧
        alert.SameButChance evs evs' alert' := by
  refine ⟨fun entries cursor => ⟨TailPlan.todo_suffix entries cursor, fun type htype => ?_⟩, ?_, ?_⟩
  · rw [TailPlan.unseen_eq] at htype ⊢
    exact TailPlan.exists_terminal_mark htype
  · intro now w v o evs hrun hevs
    obtain ⟨evs', hevs', us, hus, hreports⟩ := (ensures_pollActs_reports hρ s now w o v hrun).1
    obtain rfl : evs = evs' := List.append_cancel_left (hevs.symm.trans hevs')
    refine ⟨us, hus, hreports.imp ?_⟩
    rintro u _ ⟨r, hof, hinfix, rfl⟩
    exact ⟨r, hof, hinfix, rfl, hof.readings⟩
  · intro u w w' v v' evs evs' device sensorId reply reply' p p' hu htarget hrun hevs hrun' hevs'
      hmem hmem' hread hread' halike
    exact dispatchEntry_same hρ hu hrun hevs hrun' hevs' htarget hmem hmem' hread hread' halike

namespace Trial

/-- A controller with one fan, which it describes with a live reading. -/
def reading : Replies where
  ipmi
    | .sensor _ => .ok "Locating sensor record...\n Sensor Reading : 5332 RPM\n"
    | r => (replies "10%" "Fan 1 | 30h\n" (.ok "")).ipmi r
  readable _ := true

/-- A sensor with two entries about the fan to handle. -/
def oneFanTwice : Machine :=
  (fresh (line "1" "Lower Critical going low" ++ line "2" "Lower Critical going high")).launch reading
    100 "state" config context .utc

/-- What happens in the first cycle of this sensor. -/
def aboutOneFan : List Event := oneFanTwice.eventsTo (oneFanTwice.cycle reading 100 0)

end Trial

/-- Of two alerts about a fan in a cycle, the second alone has the live reading. -/
theorem live_readings_of_second : ∃ (s : LogSensor) (us : List TailPlan.Unseen),
    Trial.oneFanTwice.sensor = some s ∧
    us <+: (TailPlan.make (planned Trial.aboutOneFan) s.cursor).unseen.filter (s.alertable ·.entry) ∧
    List.Forall₂ (fun u alert => u.terminal = false →
      alert.specificInfo.get? SensorProps.sensorReadingName = none) us (delivered Trial.aboutOneFan) ∧
    (delivered Trial.aboutOneFan).map (·.specificInfo.get? SensorProps.sensorReadingName) =
      [none, some "5332 RPM"] := by
  have hρ := Rules.still_still.orderly
  obtain ⟨s, s', hs, -, hrun, hevs⟩ := Machine.exists_completed hρ
    Trial.reading.obey_still (show Trial.oneFanTwice.outcome Trial.reading 100 0 = some .proceed by
      decide +kernel)
  obtain ⟨us, hus, hreports⟩ := (live_readings_of_last hρ s).2.1 0 _ _ _ _ hrun hevs
  refine ⟨s, us, hs, hus, hreports.imp ?_, by decide +kernel⟩
  rintro u alert ⟨r, -, -, -, hlive⟩ hu
  exact (hlive hu).1

end HealthAgent
