import HealthAgent.Proofs.EventLog.Drafts
import HealthAgent.Proofs.EventLog.Replies
/-!
# What the text of a sensor cannot change

The description of a sensor is whatever the management controller prints, with any keys. It adds
properties to an alert, but says nothing of what the alert is about: that is settled by the entry, its
device and the identity of the agent, and the agent's own properties are written over the sensor's.

Results:
* `Device.run_draft_of_told`: whether an entry is drafted does not depend on the description.
* `Device.subject_of_draft`: what the alert of a draft is about, from the entry alone.
* `Device.subject_unaltered`: two descriptions of a sensor give alerts about the same.
-/
namespace HealthAgent
open Program

structure AlertSubject where
  origin : Origin
  kind : AlertKind
  severity : Severity
  hostId : String
  siteId : UInt32
  rackId : UInt32
  nodeId : UInt32
  clusterId : UInt32
  resourceType : String
  resourceId : String
  /-- The label of the device, and the event, among the open-ended properties. -/
  label : Option String
  event : Option String
  deriving DecidableEq, Repr

def AlertRecord.subject (a : AlertRecord) : AlertSubject where
  origin := a.origin
  kind := a.kind
  severity := a.severity
  hostId := a.hostId
  siteId := a.info.siteId
  rackId := a.info.rackId
  nodeId := a.info.nodeId
  clusterId := a.info.clusterId
  resourceType := a.info.resourceType
  resourceId := a.info.resourceId
  label := a.specificInfo.get? "fru_id"
  event := a.specificInfo.get? "event"

/-- The agent's own names are not those of live readings. -/
theorem SensorProps.get?_dynamic_own (p : SensorProps) {k : String} (hk : k ∈ ["fru_id", "event"]) :
    p.dynamic.get? k = none := by
  rw [get?_dynamic]
  simp only [List.mem_cons, List.not_mem_nil, or_false] at hk
  rcases hk with rfl | rfl
  · rfl
  · rfl

namespace Device

variable {σ τ : Type} (handle : (r : Request) → StateM σ r.Answer)
  (handle' : (r : Request) → StateM τ r.Answer)

theorem read_ok (d : Device) {reply : Except SourceError String}
    (h : ∀ e, reply = .error e → e.isTerminal = false) : ∃ p, d.read reply = .ok p := by
  cases reply with
  | ok text => exact ⟨_, rfl⟩
  | error e => exact ⟨.empty, by rw [read, h e rfl]; rfl⟩

/-- The alert of a draft is about the entry, whatever the properties of the sensor. -/
theorem subject_of_draft (d : Device) (entry : LogEntry) (sensorId : String) (terminal : Bool)
    (kind : AlertKind) (severity : Severity) (time : String) (p : SensorProps)
    (context : AlertContext) (salt : String) :
    (context.assemble salt (d.draftOf entry sensorId terminal kind severity time p)).subject =
      ⟨.nodeData, kind, severity, context.hostId, context.siteId, context.rackId, context.nodeId,
        context.clusterId, d.resourceType, d.resourceId entry sensorId,
        some entry.deviceLabel, some (d.eventText entry)⟩ := by
  have hlabel : (context.assemble salt
      (d.draftOf entry sensorId terminal kind severity time p)).specificInfo.get? "fru_id" =
        some entry.deviceLabel := by
    rw [AlertContext.get?_assemble_plain _ _ _ (by decide) (p.get?_dynamic_own (by decide)),
      get?_draftOf, if_neg (by decide), if_pos rfl]
  have hevent : (context.assemble salt
      (d.draftOf entry sensorId terminal kind severity time p)).specificInfo.get? "event" =
        some (d.eventText entry) := by
    rw [AlertContext.get?_assemble_plain _ _ _ (by decide) (p.get?_dynamic_own (by decide)),
      get?_draftOf, if_pos rfl]
  rw [AlertRecord.subject, hlabel, hevent]
  rfl

/-- Whether an entry is drafted, after a reply that is no terminal failure, is a matter of its event. -/
theorem run_draft_of_told (d : Device) (zone : Calendar.Zone) (entry : LogEntry) (sensorId : String)
    (terminal : Bool) {s : σ}
    (h : ∀ e, (handle (.ipmi (d.request sensorId)) s).1 = .error e → e.isTerminal = false) :
    match d.classify entry.description entry.status with
    | none => ((d.draft zone entry sensorId terminal).run handle s).1 = .ok none
    | some (kind, severity) => ∃ p, ((d.draft zone entry sensorId terminal).run handle s).1 =
      .ok (some (d.draftOf entry sensorId terminal kind severity
        (eventTimeOr zone entry (handle .clock (handle (.ipmi (d.request sensorId)) s).2).1) p)) := by
  rw [run_draft]
  cases d.classify entry.description entry.status with
  | none => rfl
  | some alert =>
    obtain ⟨p, hp⟩ := d.read_ok h
    exact ⟨p, by rw [hp]; rfl⟩

/-- Two descriptions of a sensor, each a text or a failure that is not terminal, give drafts of an
entry or none alike; the alerts of the drafts are about the same, with the label and the event of the
entry, and take their times from the entry or the clock. -/
theorem subject_unaltered (d : Device) (zone : Calendar.Zone) (entry : LogEntry) (sensorId : String)
    (terminal : Bool) (context : AlertContext) (s : σ) (t : τ)
    (h : ∀ e, (handle (.ipmi (d.request sensorId)) s).1 = .error e → e.isTerminal = false)
    (h' : ∀ e, (handle' (.ipmi (d.request sensorId)) t).1 = .error e → e.isTerminal = false) :
    ((d.draft zone entry sensorId terminal).run handle s).1 = .ok none ∧
      ((d.draft zone entry sensorId terminal).run handle' t).1 = .ok none ∨
    ∃ x x', ((d.draft zone entry sensorId terminal).run handle s).1 = .ok (some x) ∧
      ((d.draft zone entry sensorId terminal).run handle' t).1 = .ok (some x') ∧
      (∀ salt salt', (context.assemble salt x).subject = (context.assemble salt' x').subject) ∧
      (∀ salt, (context.assemble salt x).subject.label = some entry.deviceLabel ∧
        (context.assemble salt x).subject.event = some (match d with
          | .driveSlot => entry.description ++ " - " ++ entry.status.name
          | _ => entry.description)) ∧
      ∀ salt, (context.assemble salt x).info.eventTime =
          eventTimeOr zone entry (handle .clock (handle (.ipmi (d.request sensorId)) s).2).1 ∧
        (context.assemble salt x').info.eventTime =
          eventTimeOr zone entry (handle' .clock (handle' (.ipmi (d.request sensorId)) t).2).1 := by
  have hdraft := d.run_draft_of_told handle zone entry sensorId terminal h
  have hdraft' := d.run_draft_of_told handle' zone entry sensorId terminal h'
  cases hclass : d.classify entry.description entry.status with
  | none =>
    rw [hclass] at hdraft hdraft'
    exact .inl ⟨hdraft, hdraft'⟩
  | some alert =>
    obtain ⟨kind, severity⟩ := alert
    rw [hclass] at hdraft hdraft'
    obtain ⟨p, hp⟩ := hdraft
    obtain ⟨p', hp'⟩ := hdraft'
    refine .inr ⟨_, _, hp, hp', fun salt salt' => ?_, fun salt => ?_,
      fun salt => ⟨eventTime_of_draft .., eventTime_of_draft ..⟩⟩
    · rw [subject_of_draft, subject_of_draft]
    · rw [subject_of_draft]
      exact ⟨rfl, by cases d <;> rfl⟩

end Device

/-- A description that names another device and another event, against one that cannot be had. -/
theorem subject_unaltered_by_names :
    ∃ x x' : AlertDraft,
      ((Device.powerSupply.draft .utc (Trial.event "PS #0x61" "Power Supply" "Power Supply AC lost")
        "PS1 Status" true).run (Trial.telling (.ok "fru_id : PS 2\nevent : Failure\n") "5") ()).1 =
          .ok (some x) ∧
      ((Device.powerSupply.draft .utc (Trial.event "PS #0x61" "Power Supply" "Power Supply AC lost")
        "PS1 Status" true).run (Trial.telling (.error (.commandFailed "sdr" 1 "")) "8") ()).1 =
          .ok (some x') ∧
      (∀ salt salt', (Trial.context.assemble salt x).subject =
        (Trial.context.assemble salt' x').subject) ∧
      ∀ salt, (Trial.context.assemble salt x).subject.label = some "PS #0x61" := by
  rcases Device.subject_unaltered (Trial.telling (.ok "fru_id : PS 2\nevent : Failure\n") "5")
    (Trial.telling (.error (.commandFailed "sdr" 1 "")) "8") .powerSupply .utc
    (Trial.event "PS #0x61" "Power Supply" "Power Supply AC lost") "PS1 Status" true Trial.context
    () () (fun e he => by cases he) (fun e he => by cases he; rfl) with hnone | htwo
  · exact absurd hnone.2 (by decide +kernel)
  · obtain ⟨x, x', hx, hx', hsame, htold, -⟩ := htwo
    exact ⟨x, x', hx, hx', hsame, fun salt => (htold salt).1⟩

end HealthAgent
