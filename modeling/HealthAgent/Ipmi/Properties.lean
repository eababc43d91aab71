import HealthAgent.Dict
import HealthAgent.Text.Cut
import HealthAgent.Text.Lines
/-!
# Properties of a sensor (specification §B.4)

The management tool describes a sensor in lines `key : value`; a value may go on in the lines that
follow. Two commands describe a sensor, and they differ in which lines start a key: in the first
every line with a colon after the opening line does, in the second only one without brackets.

Identity and live readings have fields of their own; everything else is a static property.

Results:
* `get?_dynamic`: the live readings have two names.
* `get?_staticProps_ofDict`: a property with a field of its own is no static property.
-/
namespace HealthAgent
open Text

/-- What the management tool reports about a sensor. -/
structure SensorProps where
  sensorId : Option String
  entityId : Option String
  sensorReading : Option String
  statesAsserted : Option String
  staticProps : Dict String
  deriving DecidableEq, Repr

namespace SensorProps

/-- Names of the properties with a field of their own. -/
def sensorIdName : String := "Sensor ID"
@[inherit_doc sensorIdName] def entityIdName : String := "Entity ID"
@[inherit_doc sensorIdName] def sensorReadingName : String := "Sensor Reading"
@[inherit_doc sensorIdName] def statesAssertedName : String := "States Asserted"

/-- The properties with a field of their own. -/
def ownNames : List String := [sensorIdName, entityIdName, sensorReadingName, statesAssertedName]

/-- The properties of a sensor of which nothing is known. -/
def empty : SensorProps := ⟨none, none, none, none, ∅⟩

instance : Inhabited SensorProps := ⟨empty⟩

/-- The properties with the values in a dictionary. -/
def ofDict (pairs : Dict String) : SensorProps where
  sensorId := pairs.get? sensorIdName
  entityId := pairs.get? entityIdName
  sensorReading := pairs.get? sensorReadingName
  statesAsserted := pairs.get? statesAssertedName
  staticProps := (((pairs.erase sensorIdName).erase entityIdName).erase
    sensorReadingName).erase statesAssertedName

/-- A property under its name, if it is known. -/
def named (name : String) (value : Option String) (d : Dict String) : Dict String :=
  value.elim d (d.insert name)

/-- The live readings, which go stale between an event and its handling. -/
def dynamic (p : SensorProps) : Dict String :=
  named statesAssertedName p.statesAsserted (named sensorReadingName p.sensorReading ∅)

/-- Whether neither a live reading nor a static property is known. -/
def isEmpty (p : SensorProps) : Bool :=
  p.sensorReading.isNone && p.statesAsserted.isNone && p.staticProps.isEmpty

/-- The values collected so far, and the key whose value a line may continue. -/
structure Collected where
  pairs : Dict String
  current : Option String

def Collected.step (startsKey : List Char → Bool) (c : Collected) (line : List Char) : Collected :=
  if allBlank line then c
  else
    match if startsKey line then cutAt ':' line else none with
    | some (key, value) =>
      let key := String.ofList (trim key)
      ⟨c.pairs.insert key (.ofList (trim value)), some key⟩
    | none =>
      match c.current with
      | some key =>
        ⟨c.pairs.modify key fun v => .ofList (v.toList ++ '\n' :: trim line), c.current⟩
      | none => c

/-- The values of the keys in lines, where `startsKey` tells the lines that start a key. -/
def collect (startsKey : List Char → Bool) (ls : List (List Char)) : Dict String :=
  (ls.foldl (Collected.step startsKey) ⟨∅, none⟩).pairs

/-- Reads the description of a threshold sensor; its first line only names the action. -/
def ofSensorText (text : String) : SensorProps :=
  ofDict (collect (·.contains ':') ((lines text.toList).drop 1))

/-- Reads the description of a sensor record; a bracketed line never starts a key. -/
def ofRecordText (text : String) : SensorProps :=
  ofDict (collect (fun l => l.contains ':' && !l.contains '[' && !l.contains ']')
    (lines text.toList))

theorem get?_named (name : String) (value : Option String) (d : Dict String) (k : String) :
    (named name value d).get? k = if k = name then value.or (d.get? k) else d.get? k := by
  cases value with
  | none => simp [named]
  | some v => simp [named, Dict.get?_insert]

theorem get?_dynamic (p : SensorProps) (k : String) :
    p.dynamic.get? k = if k = statesAssertedName then p.statesAsserted
      else if k = sensorReadingName then p.sensorReading else none := by
  rw [dynamic, get?_named, get?_named, Dict.get?_empty, Option.or_none]
  split
  · next hk =>
    subst hk
    simp [statesAssertedName, sensorReadingName]
  · rfl

theorem get?_staticProps_ofDict (pairs : Dict String) (k : String) :
    (ofDict pairs).staticProps.get? k = if k ∈ ownNames then none else pairs.get? k := by
  simp only [ofDict, Dict.get?_erase, ownNames, List.mem_cons, List.not_mem_nil, or_false]
  grind

end SensorProps
end HealthAgent
