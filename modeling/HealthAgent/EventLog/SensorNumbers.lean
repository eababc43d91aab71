import HealthAgent.EventLog.Device
import HealthAgent.Ipmi.Listing
import HealthAgent.Sensor.Request
/-!
# Sensor names by number (specification §B.3)

The log tells a sensor by its number, the commands that describe it by its name. The names come
from a listing of the sensors of each device type. A listing that fails leaves its device type
without sensors; a missing management tool ends the loading.

Results:
* `sensorId?_insert`: an inserted number has its name, and no other look-up changes.
-/
namespace HealthAgent

/-- The names of sensors by number, for each device type. -/
structure SensorNumbers where
  fan : Dict String
  powerSupply : Dict String
  powerUnit : Dict String
  driveSlot : Dict String
  deriving DecidableEq, Repr

namespace SensorNumbers

def empty : SensorNumbers := ⟨∅, ∅, ∅, ∅⟩

def ofDevice (m : SensorNumbers) : Device → Dict String
  | .fan => m.fan
  | .powerSupply => m.powerSupply
  | .powerUnit => m.powerUnit
  | .driveSlot => m.driveSlot

/-- The sensors with those of one device type replaced by their image. -/
def modify (m : SensorNumbers) (f : Dict String → Dict String) : Device → SensorNumbers
  | .fan => { m with fan := f m.fan }
  | .powerSupply => { m with powerSupply := f m.powerSupply }
  | .powerUnit => { m with powerUnit := f m.powerUnit }
  | .driveSlot => { m with driveSlot := f m.driveSlot }

/-- Adds a sensor; the letter case of its number does not count. -/
def insert (m : SensorNumbers) (d : Device) (number sensorId : String) : SensorNumbers :=
  m.modify (·.insert number.lowerAscii sensorId) d

/-- The name of the sensor with a number in small digits. -/
def sensorId? (m : SensorNumbers) (d : Device) (number : String) : Option String :=
  (m.ofDevice d).get? number

def addListing (m : SensorNumbers) (d : Device) (listing : String) : SensorNumbers :=
  (Ipmi.parseListing listing).foldl (fun m (sensorId, number) => m.insert d number sensorId) m

def loadTypes : List Device → SensorNumbers → SensorProgram (Except SourceError SensorNumbers)
  | [], m => .done (.ok m)
  | d :: ds, m => do
    match ← (Request.ipmi (.sensorsOfType d.name)).ask with
    | .ok listing => loadTypes ds (m.addListing d listing)
    | .error e => if e.isTerminal then return .error e else loadTypes ds m

/-- The sensors of every device type, as the management controller lists them. -/
def load : SensorProgram (Except SourceError SensorNumbers) :=
  loadTypes Device.all empty

theorem sensorId?_insert (m : SensorNumbers) (d d' : Device) (number number' sensorId : String) :
    (m.insert d number sensorId).sensorId? d' number' =
      if d' = d ∧ number' = number.lowerAscii then some sensorId else m.sensorId? d' number' := by
  cases d <;> cases d' <;>
    simp [insert, modify, sensorId?, ofDevice, Dict.get?_insert]

end SensorNumbers
end HealthAgent
