import HealthAgent.Proofs.Alert.Streams
/-!
# Envelopes read back

The body of an envelope is read as the alert without its origin, whatever the envelope adds to the body;
the origin is read from the name of the handler. So an envelope tells its alert, and so does a line of a
stream. A field of the specific information may have any name, also one of the body's: it stands one
level deeper.

Results:
* `ofJson?_body`: the body of an alert's envelope is read as the alert, addressed to the node data
  handler.
* `ofEnvelope?_envelope`: an envelope is read back.
* `envelope_inj`, `line_inj`: different alerts have different envelopes and different lines.
* `envelope_determines`: what an envelope holds, and that it tells the alert.
-/
namespace HealthAgent
open Json

namespace Json

theorem word32?_ofNat (n : UInt32) : (ofNat n.toNat).word32? = some n := by
  have hlt := n.toNat_lt
  have hrange : (0 : Int) ≤ n.toNat ∧ (n.toNat : Int) < 2 ^ 32 := by omega
  simp only [ofNat, word32?, if_pos hrange, Int.toNat_natCast]
  exact congrArg some (UInt32.ofNat_toNat)

theorem mapM_texts (es : List (String × String)) :
    (es.map fun (k, v) => (k, string v)).mapM
      (fun f : String × Json => (text? f.2).map (f.1, ·)) = some es := by
  induction es with
  | nil => rfl
  | cons e es ih =>
    rw [List.map_cons, List.mapM_cons, ih]
    rfl

theorem texts?_ofTexts (d : Dict String) : (ofTexts d).texts? = some d := by
  rw [ofTexts, texts?, mapM_texts, Option.map_some, Dict.ofList_entries]

end Json

namespace AlertInfo

/-- Common information is read from the values of its fields. The values are left open here, so that no
step of the proof looks into a number. -/
theorem ofJson?_of_fields {j site rack node cluster type id time : Json} {i : AlertInfo}
    (h : j.fieldValues? ["site_id", "rack_id", "node_id", "cluster_id", "resource_type",
      "resource_id", "event_time"] =
      some [some site, some rack, some node, some cluster, some type, some id, some time])
    (hsite : site.word32? = some i.siteId) (hrack : rack.word32? = some i.rackId)
    (hnode : node.word32? = some i.nodeId) (hcluster : cluster.word32? = some i.clusterId)
    (htype : type.text? = some i.resourceType) (hid : id.text? = some i.resourceId)
    (htime : time.text? = some i.eventTime) : ofJson? j = some i := by
  simp [ofJson?, h, hsite, hrack, hnode, hcluster, htype, hid, htime]

theorem ofJson?_toJson (i : AlertInfo) : ofJson? i.toJson = some i :=
  ofJson?_of_fields rfl (word32?_ofNat _) (word32?_ofNat _) (word32?_ofNat _) (word32?_ofNat _)
    rfl rfl rfl

end AlertInfo

namespace AlertRecord

variable (r s : AlertRecord)

/-- The body of an alert's envelope holds the alert's fields and nothing that they could be taken for. -/
theorem fieldValues?_body : r.body.fieldValues? ["origin", "alert_type", "severity", "alert_id",
    "host_id", "info", "specific_info"] =
    some [none, some (.string r.kind.name), some (.string r.severity.name), some (.string r.alertId),
      some (.string r.hostId), some r.info.toJson, some (.ofTexts r.specificInfo)] := by
  cases horigin : r.origin <;> simp only [body, horigin] <;> rfl

/-- The body of an alert's envelope is read as the alert, addressed to the node data handler. -/
theorem ofJson?_body : ofJson? r.body = some { r with origin := .nodeData } := by
  simp [ofJson?, fieldValues?_body, text?, nameOf?, AlertKind.parse?_name, Severity.parse?_name,
    AlertInfo.ofJson?_toJson, texts?_ofTexts]

def ofEnvelope? : Json → Option AlertRecord
  | .object [(request, .object [(handler, body)])] =>
    if request = "sensor_request_type" then do
      let origin ← Origin.parse? handler
      return { ← ofJson? body with origin }
    else none
  | _ => none

theorem ofEnvelope?_envelope : ofEnvelope? r.envelope = some r := by
  simp [ofEnvelope?, envelope, Origin.parse?_name, ofJson?_body]

theorem envelope_inj {r s : AlertRecord} (h : r.envelope = s.envelope) : r = s := by
  have hread := r.ofEnvelope?_envelope
  rw [h, ofEnvelope?_envelope] at hread
  exact (Option.some.inj hread).symm

theorem line_inj {r s : AlertRecord} (h : r.line = s.line) : r = s := by
  have hread := r.parse?_line
  rw [h, parse?_line] at hread
  exact (envelope_inj (Option.some.inj hread)).symm

/-- **The envelope determines the alert.** An envelope is an object with one field, which holds an
object with one field, named for the handler that the origin names. Its body is read as the alert, the
origin apart; only an enclosure alert has a status there, which is an update, and no alert has an
origin there. Alerts with one envelope, or with one line of a stream, are one alert. -/
theorem envelope_determines :
    (∃ handler body, r.envelope = .object [("sensor_request_type", .object [(handler, body)])] ∧
      handler = (match r.origin with
        | .nodeData => "node_data"
        | .enclosureAlert => "enclosure_alert") ∧
      ofJson? body = some { r with origin := .nodeData } ∧
      (∀ status, body.field? "status" = some status ↔
        r.origin = .enclosureAlert ∧ status = .string "update") ∧
      body.field? "origin" = none) ∧
    (r.envelope = s.envelope ↔ r = s) ∧ (r.line = s.line ↔ r = s) := by
  refine ⟨⟨r.origin.name, r.body, rfl, ?_, r.ofJson?_body, fun status => ?_, ?_⟩,
    ⟨envelope_inj, congrArg _⟩, line_inj, congrArg _⟩
  · cases r.origin <;> rfl
  · cases horigin : r.origin with
    | nodeData =>
      have hnone : r.body.field? "status" = none := by
        simp only [body, horigin]
        rfl
      simp [hnone]
    | enclosureAlert =>
      have hupdate : r.body.field? "status" = some (.string "update") := by
        simp only [body, horigin]
        rfl
      rw [hupdate, Option.some.injEq]
      exact ⟨fun h => ⟨rfl, h.symm⟩, fun h => h.2.symm⟩
  · cases horigin : r.origin <;> simp only [body, horigin] <;> rfl

end AlertRecord
end HealthAgent
