import HealthAgent.EventLog.Draft
import HealthAgent.Proofs.Program.Runs
/-!
# What is in a draft and in its alert

A draft is made from an entry and the reply to one request, and asks for the time only if the entry
tells none that can be used. What its alert says of a property is read off here, one lookup at a time:
the names that the agent itself writes come last, so that no property of the sensor replaces them, and
on the way to the alert only listings are rewritten and only live readings are added.

Results:
* `Device.run_draft`: a draft under a handler, from the two answers that it depends on.
* `Device.get?_keptProps_fan`, `Device.get?_draftOf`: what a draft tells under a name.
* `AlertContext.get?_assemble`: what the alert of a draft tells under a name.
* `AlertContext.get?_assemble_plain`: under most names, that is what the draft tells.
-/
namespace HealthAgent
open Program

/-! ## The draft -/

/-- The property under each of some names, on top of other properties. -/
theorem SensorProps.get?_foldl_named (names : List String) (values d : Dict String) (k : String) :
    (names.foldl (fun d name => named name (values.get? name) d) d).get? k =
      if k ∈ names then (values.get? k).or (d.get? k) else d.get? k := by
  induction names generalizing d with
  | nil => rfl
  | cons name names ih =>
    rw [List.foldl_cons, ih, get?_named]
    by_cases hk : k = name
    · subst hk
      cases values.get? k <;> simp
    · simp [hk]

namespace Device

theorem get?_keptProps_fan (p : SensorProps) (k : String) :
    (keptProps .fan p).get? k = if k ∈ fanThresholdNames then p.staticProps.get? k else none := by
  rw [keptProps, SensorProps.get?_foldl_named, Dict.get?_empty, Option.or_none]

theorem get?_draftOf (d : Device) (entry : LogEntry) (sensorId : String) (terminal : Bool)
    (kind : AlertKind) (severity : Severity) (time : String) (p : SensorProps) (k : String) :
    (d.draftOf entry sensorId terminal kind severity time p).specificInfo.get? k =
      if k = "event" then some (d.eventText entry)
      else if k = "fru_id" then some entry.deviceLabel else (d.keptProps p).get? k := by
  rw [draftOf, Dict.get?_insert, Dict.get?_insert]

end Device

/-! ## The alert -/

namespace AlertContext

variable (context : AlertContext) (salt : String) (x : AlertDraft) (k : String)

theorem get?_assemble : (context.assemble salt x).specificInfo.get? k =
    (if k ∈ listingNames then Option.map fun v => .ofList (flattenListing v.toList) else id)
      (if x.terminal then (x.dynamicInfo.get? k).or (x.specificInfo.get? k)
        else x.specificInfo.get? k) := by
  rw [assemble, get?_flattenListings]
  split <;> split <;> simp [Dict.get?_union]

variable {k}

/-- A property that is neither a listing nor a live reading reaches the alert as it is. -/
theorem get?_assemble_plain (hlisting : k ∉ listingNames) (hlive : x.dynamicInfo.get? k = none) :
    (context.assemble salt x).specificInfo.get? k = x.specificInfo.get? k := by
  rw [get?_assemble, if_neg hlisting, hlive, Option.none_or, ite_self]
  rfl

end AlertContext

theorem Device.eventTime_of_draft (d : Device) (entry : LogEntry) (sensorId : String)
    (terminal : Bool) (kind : AlertKind) (severity : Severity) (time : String) (p : SensorProps)
    (context : AlertContext) (salt : String) :
    (context.assemble salt
      (d.draftOf entry sensorId terminal kind severity time p)).info.eventTime = time := rfl

/-! ## The answers that a draft depends on -/

namespace Device

/-- The event time of an entry, with what the clock tells in place of a time that cannot be used. -/
def eventTimeOr (zone : Calendar.Zone) (entry : LogEntry) (clock : String) : String :=
  match Calendar.eventTime? zone entry.date entry.time with
  | some t => toString t
  | none => clock

variable {σ : Type} (handle : (r : Request) → StateM σ r.Answer)

theorem run_eventTimeOf (zone : Calendar.Zone) (entry : LogEntry) (s : σ) :
    ((eventTimeOf zone entry).run handle s).1 = eventTimeOr zone entry (handle .clock s).1 := by
  unfold eventTimeOf eventTimeOr
  cases Calendar.eventTime? zone entry.date entry.time <;> rfl

theorem run_describe (d : Device) (sensorId : String) (s : σ) :
    (d.describe sensorId).run handle s = (d.read (handle (.ipmi (d.request sensorId)) s).1,
      (handle (.ipmi (d.request sensorId)) s).2) := by
  rw [describe_eq]
  rfl

/-- A draft under a handler: whether there is one is a matter of the event, and what is in it of the
reply to the request for the description. -/
theorem run_draft (d : Device) (zone : Calendar.Zone) (entry : LogEntry) (sensorId : String)
    (terminal : Bool) (s : σ) :
    ((d.draft zone entry sensorId terminal).run handle s).1 =
      match d.classify entry.description entry.status with
      | none => .ok none
      | some (kind, severity) =>
        (d.read (handle (.ipmi (d.request sensorId)) s).1).map fun p =>
          some (d.draftOf entry sensorId terminal kind severity
            (eventTimeOr zone entry (handle .clock (handle (.ipmi (d.request sensorId)) s).2).1) p) := by
  unfold draft
  cases d.classify entry.description entry.status with
  | none => rfl
  | some alert =>
    obtain ⟨kind, severity⟩ := alert
    dsimp only
    rw [bind_eq, run_bind_state, run_describe]
    cases d.read (handle (.ipmi (d.request sensorId)) s).1 with
    | error e => rfl
    | ok p =>
      dsimp only
      rw [bind_eq, run_bind_state, run_eventTimeOf]
      rfl

end Device

/-! ## Trials -/

namespace Trial

/-- A world in which every request for a description has this reply, and it is this time. -/
def telling (reply : Except SourceError String) (time : String) : (r : Request) → StateM Unit r.Answer
  | .ipmi _ => pure reply
  | .records _ _ => pure (.ok [])
  | .file (.makeFolder _) => pure true
  | .file (.load _) => pure .absent
  | .file (.replace _ _) => pure .written
  | .clock => pure time
  | .salt => pure ""
  | .deliver _ => pure true

/-- An asserted event of a device, at a time that tells nothing. -/
def event (label type description : String) : LogEntry :=
  ⟨1, "", "", label, type, none, description, .asserted⟩

end Trial
end HealthAgent
