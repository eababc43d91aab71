import HealthAgent.Enclosure.FaultStore
import HealthAgent.Proofs.Json.Picking
/-!
# The file of a fault map read back

A record is written as an object of three strings, a map as an object of records. Both are read by
picking fields, so what is read back depends on what the text spells, not on how it is laid out.

Results:
* `FaultRecord.decode?_spelled`: a text that spells a record is read as this record.
* `FaultMap.decode?_spelled`: a text that spells a map is read as this map.
* `FaultMap.decode?_encode`: a written map is read back, whatever its identities are.
* `FaultMap.encode_isAllBlank`: a written map is never taken for a blank file.
-/
namespace HealthAgent
open Json

theorem Health.ofName?_name (h : Health) : ofName? h.name = some h := by
  cases h <;> decide

namespace FaultRecord

theorem ofJson?_toJson (r : FaultRecord) : ofJson? r.toJson = some r := by
  have hfields : r.toJson.fieldValues? fieldNames =
      some [some (.string r.resourceId), some (.string r.health.name), some (.string r.kind.name)] :=
    rfl
  rw [ofJson?, hfields]
  simp [ofFields?, text?, nameOf?, Health.ofName?_name, AlertKind.parse?_name]

theorem isWhole_toJson (r : FaultRecord) : r.toJson.isWhole = true := rfl

theorem decode?_spelled {r : FaultRecord} {cs : List Char} (h : Spells r.toJson cs) :
    decode? cs = some r := by
  have hflat : ∀ f ∈ [("resource_id", Json.string r.resourceId),
      ("health", .string r.health.name), ("alert_type", .string r.kind.name)],
      nesting f.2 ≤ maxDepth := by
    simp [nesting]
  rw [decode?, pick?_spelled fieldNames h hflat]
  exact ofJson?_toJson r

end FaultRecord

namespace FaultMap

theorem isWhole_toJson (m : FaultMap) : m.toJson.isWhole = true := by
  have hfields : ∀ es : List (String × FaultRecord),
      fieldsWhole (es.map fun e => (e.1, e.2.toJson)) = true := by
    intro es
    induction es with
    | nil => rfl
    | cons e es ih => simpa [fieldsWhole, e.2.isWhole_toJson] using ih
  exact hfields m.entries

theorem decode?_spelled {m : FaultMap} {cs : List Char} (h : Spells m.toJson cs) :
    decode? (.ofList cs) = some m := by
  obtain ⟨texts, houtline, htexts⟩ := outline?_spelled h
  have hrecords : texts.mapM (fun f : String × List Char =>
      (FaultRecord.decode? f.2).map (f.1, ·)) = some m.entries := by
    refine mapM_of_forall₂ (List.Forall₂.imp ?_ (List.forall₂_map_left_iff.1 htexts).flip)
    rintro f ⟨id, r⟩ ⟨hname, hspells⟩
    rw [FaultRecord.decode?_spelled hspells, hname]
    rfl
  rw [decode?, String.toList_ofList, houtline]
  simp only [hrecords, Option.map_some, Dict.ofList_entries]

theorem decode?_encode (m : FaultMap) : decode? m.encode = some m :=
  decode?_spelled (spells_printIndented 0 m.toJson m.isWhole_toJson)

/-- A written map is never taken for a blank file. -/
theorem encode_isAllBlank (m : FaultMap) : m.encode.isAllBlank = false := by
  have hfront : ∃ rest, printIndented 0 m.toJson = '\x7b' :: rest := by
    rw [toJson]
    cases m.entries with
    | nil => exact ⟨_, rfl⟩
    | cons e es => exact ⟨_, rfl⟩
  obtain ⟨rest, hrest⟩ := hfront
  rw [encode, pretty, String.isAllBlank, String.toList_ofList, hrest]
  rfl

end FaultMap
end HealthAgent
