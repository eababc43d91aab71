import HealthAgent.Proofs.EventLog.Drafts
/-!
# The thresholds in the alert of a fan

Two tables speak of the thresholds of a fan: the words of an event name the bound and the level that
was crossed, and the alert keeps the thresholds of some names from the description of the sensor. A
sensor has six thresholds and an event can be about each of them, but only five are kept: the alert of
a crossing of the upper non-critical threshold does not tell that threshold.

Results:
* `Crossing.parse?_eq_some_iff`: the events that are crossings, word by word.
* `Crossing.thresholdName_mem_kept_iff`: the crossings whose threshold is kept.
* `Device.fan_draft_thresholds`: the thresholds in the draft of an accepted event of a fan.
* `upper_noncritical_threshold_dropped`: a crossing whose alert lacks the threshold that was crossed.
-/
namespace HealthAgent
open Program Text

/-! ## The words of a crossing -/

def Direction.word : Direction → String
  | low => "low"
  | high => "high"

namespace Crossing

/-- The crossings that are told by their words, in small letters. -/
theorem parse?_eq_some_iff {description : String} {c : Crossing} :
    parse? description = some c ↔
      (words description.toList).map (fun w => String.ofList (lower w)) =
        [c.bound, c.level, "going", c.direction.word] ∧
      c.bound ∈ ["lower", "upper"] ∧
      c.level ∈ ["non-critical", "critical", "non-recoverable"] := by
  unfold parse?
  constructor
  · intro h
    split at h
    · rename_i bound level going direction hwords
      split at h
      · rename_i hgrammar
        simp only [Bool.and_eq_true, List.contains_eq_mem, decide_eq_true_eq] at hgrammar
        obtain ⟨⟨hbound, hlevel⟩, rfl⟩ := hgrammar
        split at h
        · cases h
          exact ⟨hwords, hbound, hlevel⟩
        · cases h
          exact ⟨hwords, hbound, hlevel⟩
        · cases h
      · cases h
    · cases h
  · rintro ⟨hwords, hbound, hlevel⟩
    rw [hwords]
    obtain ⟨bound, level, direction⟩ := c
    have hgrammar : (["lower", "upper"].contains bound &&
        ["non-critical", "critical", "non-recoverable"].contains level &&
        decide ("going" = "going")) = true := by
      simp only [Bool.and_eq_true, List.contains_eq_mem, decide_eq_true_eq]
      exact ⟨⟨hbound, hlevel⟩, trivial⟩
    dsimp only
    rw [if_pos hgrammar]
    cases direction with
    | low => rfl
    | high => rfl

/-- The management tool's name for the threshold that was crossed. -/
def thresholdName (c : Crossing) : String :=
  (if c.bound = "lower" then "Lower " else "Upper ") ++
    (if c.level = "non-critical" then "Non-Critical"
      else if c.level = "critical" then "Critical" else "Non-Recoverable")

/-- The management tool's names for the thresholds of a sensor. -/
def thresholdNames : List String := [
  "Lower Non-Critical", "Lower Critical", "Lower Non-Recoverable",
  "Upper Non-Critical", "Upper Critical", "Upper Non-Recoverable"]

variable {c : Crossing} {description : String}

theorem mem_thresholdNames_of_kept {k : String} (h : k ∈ fanThresholdNames) :
    k ∈ thresholdNames := by
  have hall : ∀ k ∈ fanThresholdNames, k ∈ thresholdNames := by decide
  exact hall k h

/-- Every crossing is of a threshold, whose name is kept for all but one bound and level. -/
theorem thresholdName_mem_kept_iff (h : parse? description = some c) :
    c.thresholdName ∈ thresholdNames ∧
      (c.thresholdName ∈ fanThresholdNames ↔ ¬ (c.bound = "upper" ∧ c.level = "non-critical")) := by
  obtain ⟨-, hbound, hlevel⟩ := parse?_eq_some_iff.1 h
  obtain ⟨bound, level, direction⟩ := c
  have hall : ∀ bound ∈ ["lower", "upper"],
      ∀ level ∈ ["non-critical", "critical", "non-recoverable"],
        (Crossing.mk bound level direction).thresholdName ∈ thresholdNames ∧
        ((Crossing.mk bound level direction).thresholdName ∈ fanThresholdNames ↔
          ¬ (bound = "upper" ∧ level = "non-critical")) := by
    cases direction with
    | low => decide
    | high => decide
  exact hall bound hbound level hlevel

end Crossing

/-! ## The draft -/

namespace Device

theorem classify_fan {description : String} {status : Assertion} {alert : AlertKind × Severity}
    (h : classify .fan description status = some alert) :
    ∃ c, Crossing.parse? description = some c ∧
      alert = (.thresholdBreached c.direction, .warning) := by
  obtain ⟨c, hc, rfl⟩ := Option.map_eq_some_iff.1 h
  exact ⟨c, hc, rfl⟩

/-- What the draft of a fan's event tells under a name that is not the agent's own. -/
theorem get?_draftOf_fan (entry : LogEntry) (sensorId : String) (terminal : Bool) (kind : AlertKind)
    (severity : Severity) (time : String) (p : SensorProps) {k : String}
    (hk : k ∉ ["fru_id", "event"]) :
    (Device.fan.draftOf entry sensorId terminal kind severity time p).specificInfo.get? k =
      if k ∈ fanThresholdNames then p.staticProps.get? k else none := by
  simp only [List.mem_cons, List.not_mem_nil, or_false, not_or] at hk
  rw [get?_draftOf, if_neg hk.2, if_neg hk.1, get?_keptProps_fan]

/-- An event of a fan that raises an alert is drafted whatever the description of the sensor. The
draft tells the crossed threshold as the description does, but for the upper non-critical one, and of
the static properties it tells only thresholds. -/
theorem fan_draft_thresholds {σ : Type} (handle : (r : Request) → StateM σ r.Answer)
    (zone : Calendar.Zone) (entry : LogEntry) (sensorId : String) (terminal : Bool) (s : σ)
    {alert : AlertKind × Severity} (h : classify .fan entry.description entry.status = some alert)
    {text : String} (htext : (handle (.ipmi (.sensor sensorId)) s).1 = .ok text) :
    ∃ c x, Crossing.parse? entry.description = some c ∧
      ((Device.fan.draft zone entry sensorId terminal).run handle s).1 = .ok (some x) ∧
      (∀ value, (SensorProps.ofSensorText text).staticProps.get? c.thresholdName = some value →
        (x.specificInfo.get? c.thresholdName = some value ↔
          ¬ (c.bound = "upper" ∧ c.level = "non-critical"))) ∧
      ∀ k value, x.specificInfo.get? k = some value → k ∉ ["fru_id", "event"] →
        k ∈ Crossing.thresholdNames ∧
          (SensorProps.ofSensorText text).staticProps.get? k = some value := by
  obtain ⟨c, hc, rfl⟩ := classify_fan h
  obtain ⟨hname, hkept⟩ := Crossing.thresholdName_mem_kept_iff hc
  have hown : ∀ k ∈ Crossing.thresholdNames, k ∉ ["fru_id", "event"] := by decide
  have hrun : ((Device.fan.draft zone entry sensorId terminal).run handle s).1 =
      .ok (some (Device.fan.draftOf entry sensorId terminal (.thresholdBreached c.direction) .warning
        (eventTimeOr zone entry (handle .clock (handle (.ipmi (.sensor sensorId)) s).2).1)
        (.ofSensorText text))) := by
    have hread : Device.fan.read (handle (.ipmi (.sensor sensorId)) s).1 =
        .ok (.ofSensorText text) := by rw [htext]; rfl
    rw [run_draft, h]
    exact congrArg (Except.map _) hread
  refine ⟨c, _, hc, hrun, fun value hvalue => ?_, fun k value hvalue hk => ?_⟩
  · rw [get?_draftOf_fan _ _ _ _ _ _ _ (hown _ hname), hvalue, ← hkept]
    split
    · next hmem => exact iff_of_true rfl hmem
    · next hmem => exact iff_of_false (by simp) hmem
  · rw [get?_draftOf_fan _ _ _ _ _ _ _ hk] at hvalue
    split at hvalue
    · next hmem => exact ⟨Crossing.mem_thresholdNames_of_kept hmem, hvalue⟩
    · cases hvalue

end Device

namespace Trial

/-- The description of a fan by its upper thresholds. -/
def thresholds : String :=
  "Locating sensor record...\n Upper Non-Critical : 9000.000\n Upper Critical : 9500.000\n"

end Trial

/-- The alert of a crossing tells the threshold. -/
theorem fan_draft_thresholds_critical : ∃ x : AlertDraft,
    ((Device.fan.draft .utc (Trial.event "Fan #0x30" "Fan" "UPPER  Critical going high") "Fan 1"
      true).run (Trial.telling (.ok Trial.thresholds) "5") ()).1 = .ok (some x) ∧
    x.specificInfo.get? "Upper Critical" = some "9500.000" := by
  have hclass : Device.classify .fan "UPPER  Critical going high" .asserted =
      some (.thresholdBreached .high, .warning) := by decide +kernel
  obtain ⟨c, x, hc, hx, hcarries, -⟩ := Device.fan_draft_thresholds
    (Trial.telling (.ok Trial.thresholds) "5") .utc
    (Trial.event "Fan #0x30" "Fan" "UPPER  Critical going high") "Fan 1" true () hclass rfl
  obtain rfl : c = ⟨"upper", "critical", .high⟩ :=
    Option.some.inj (hc.symm.trans (by decide +kernel))
  exact ⟨x, hx, (hcarries "9500.000" (by decide +kernel)).2 (by decide)⟩

/-- The alert of a crossing of the upper non-critical threshold lacks the threshold, though the
description tells it. -/
theorem upper_noncritical_threshold_dropped :
    Crossing.parse? "Upper Non-critical going high" = some ⟨"upper", "non-critical", .high⟩ ∧
    (⟨"upper", "non-critical", .high⟩ : Crossing).thresholdName = "Upper Non-Critical" ∧
    (SensorProps.ofSensorText Trial.thresholds).staticProps.get? "Upper Non-Critical" =
      some "9000.000" ∧
    ∃ x : AlertDraft,
      ((Device.fan.draft .utc (Trial.event "Fan #0x30" "Fan" "Upper Non-critical going high") "Fan 1"
        true).run (Trial.telling (.ok Trial.thresholds) "5") ()).1 = .ok (some x) ∧
      x.specificInfo.get? "Upper Non-Critical" = none := by
  refine ⟨by decide +kernel, by decide, by decide +kernel, _, rfl, ?_⟩
  decide +kernel

end HealthAgent
