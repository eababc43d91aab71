import HealthAgent.Enclosure.FaultMap
import HealthAgent.Json.Pick
import HealthAgent.State.File
import HealthAgent.Text.Blank
/-!
# The file of a fault map (specification §4.1)

A fault map is kept as an indented JSON object from the identity of a unit to its record. A file
that cannot be decoded is replaced by an empty map, so that the next cycle raises an alert for every
unhealthy unit again.
-/
namespace HealthAgent

namespace FaultRecord

/-- A record, with its fields in the order in which they are written. -/
def toJson (r : FaultRecord) : Json := .object [
  ("resource_id", .string r.resourceId),
  ("health", .string r.health.name),
  ("alert_type", .string r.kind.name)]

def ofFields? : List (Option Json) → Option FaultRecord
  | [some id, some health, some kind] => do
    return ⟨← id.text?, ← health.nameOf?.bind Health.ofName?, ← kind.text?.bind AlertKind.parse?⟩
  | _ => none

def fieldNames : List String := ["resource_id", "health", "alert_type"]

def ofJson? (j : Json) : Option FaultRecord := (j.fieldValues? fieldNames).bind ofFields?

/-- Reads the text of a record. What is no field of a record is passed over. -/
def decode? (cs : List Char) : Option FaultRecord := (Json.pick? fieldNames cs).bind ofFields?

end FaultRecord

namespace FaultMap

/-- A fault map, by ascending identities. -/
def toJson (m : FaultMap) : Json := .object (m.entries.map fun (id, r) => (id, r.toJson))

def ofJson? : Json → Option FaultMap
  | .object fields =>
    (fields.mapM fun (f : String × Json) => (FaultRecord.ofJson? f.2).map (f.1, ·)).map Dict.ofList
  | _ => none

def encode (m : FaultMap) : String := m.toJson.pretty

/-- Reads the text of a fault map's file. -/
def decode? (text : String) : Option FaultMap :=
  match Json.outline? text.toList with
  | some (.fields texts) =>
    (texts.mapM fun (f : String × List Char) =>
      (FaultRecord.decode? f.2).map (f.1, ·)).map Dict.ofList
  | _ => none

end FaultMap

structure FaultStore where
  path : String
  deriving DecidableEq, Repr

namespace FaultStore
open State

def save (s : FaultStore) (m : FaultMap) : SensorProgram (Except StoreError Unit) :=
  replaceText s.path m.encode

/-- Opens the store in a folder, which is created if needed; a missing or blank file is written
with the empty map. -/
def openIn (folder name : String) : SensorProgram (Except StoreError FaultStore) := do
  let s : FaultStore := ⟨joinPath folder name⟩
  match ← ensureFolder folder with
  | .error e => return .error e
  | .ok () =>
    match ← readText s.path with
    | .error e => return .error e
    | .ok text =>
      if (text.getD "").isAllBlank then return (← s.save ∅).map fun () => s
      else return .ok s

def load (s : FaultStore) : SensorProgram (Except StoreError FaultMap) := do
  match ← readText s.path with
  | .error e => return .error e
  | .ok text =>
    let text := text.getD ""
    if text.isAllBlank then return .ok ∅
    match FaultMap.decode? text with
    | some m => return .ok m
    | none => return (← s.save ∅).map fun () => ∅

end FaultStore
end HealthAgent
