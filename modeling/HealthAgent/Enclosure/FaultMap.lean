import HealthAgent.Enclosure.Status
/-!
# The memory of unhealthy units (specification §3, §4.3)

A fault map holds a record for every unit whose last observed health was not ok. An observed status
changes the map and may raise an alert; a health that is the same as the remembered one is silent.

Results:
* `get?_observe_of_ne`: an observation changes no other unit's record.
-/
namespace HealthAgent

/-- The last known unhealthy state of a unit, and the alert it raised. -/
structure FaultRecord where
  resourceId : String
  health : Health
  kind : AlertKind
  deriving DecidableEq, Repr

/-- Records of unhealthy units, by identity. -/
abbrev FaultMap := Dict FaultRecord

namespace FaultMap

def faultKind (s : FruStatus) : AlertKind :=
  if s.isNotInstalled then .missing else .fault

/-- The kind of alert that a status raises, given the remembered record. -/
def transition (s : FruStatus) (previous : Option FaultRecord) : Option AlertKind :=
  match s.health, previous with
  | .ok, none => none
  | .ok, some r => some (if r.kind = .missing then .insertion else .faultResolved)
  | .fault, none => some (faultKind s)
  | .fault, some r => if r.health = .fault then none else some (faultKind s)
  | .degraded, none => some .fault
  | .degraded, some r => if r.health = .degraded then none else some .fault

/-- Takes in an observed status: the map after it, and the kind of alert it raises. -/
def observe (m : FaultMap) (s : FruStatus) : FaultMap × Option AlertKind :=
  match transition s (m.get? s.resourceId) with
  | none => (m, none)
  | some kind =>
    if s.health = .ok then (m.erase s.resourceId, some kind)
    else (m.insert s.resourceId ⟨s.resourceId, s.health, kind⟩, some kind)

theorem get?_observe_of_ne (m : FaultMap) (s : FruStatus) {id : String} (h : id ≠ s.resourceId) :
    (observe m s).1.get? id = m.get? id := by
  unfold observe
  split
  · rfl
  · split <;> simp [Dict.get?_insert, Dict.get?_erase, h]

end FaultMap
end HealthAgent
