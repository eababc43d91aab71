import HealthAgent.Agent.Start
import HealthAgent.Host.Model
import HealthAgent.Proofs.Enclosure.Restarts
import HealthAgent.Proofs.Program.Exchanges
/-!
# Data that tell nothing

What a management service answers may be of no use as a whole: no reply, a status that tells of a
failure, a content that is no JSON, or no list where the records should be. The cycle then ends with
the request for the records.

Or single records may be of no use, because they tell no status of a unit (`FruStatus.Untold`). They
are passed over, wherever they stand among the others: the cycle is the one that would be run
without them, whatever its surroundings answer.

Results:
* `FruStatus.ofRecord_error_iff`: which records are rejected.
* `ServiceClient.fetch_ok_iff`: which answers of the service give records.
* `Interspersed.statuses_eq`: rejected records do not change what a snapshot tells.
* `FruSensor.run_poll_serving`: a cycle is what is done with the snapshot that the service gives.
* `FruSensor.poll_of_unlisted`: a cycle whose client gets no records.
* `unusable_data_unnoticed`: what a cycle does with data that tell nothing.
-/
namespace HealthAgent
open Program

/-! ## Records that tell no status -/

/-- A record that tells no status of a unit. -/
inductive FruStatus.Untold (record : Json) : Prop
  | notObject (fields : record.fields? = none)
  /-- One of the three fields is absent or no text. -/
  | noText (name : String) (needed : name ∈ ["durable-id", "health", "status"])
      (untold : ∀ text, record.field? name ≠ some (.string text))
  | unknownHealth (text : String) (told : record.field? "health" = some (.string text))
      (unknown : Health.parse? text = none)

namespace FruStatus

theorem textField_ok_iff (record : Json) (name text : String) :
    textField record name = .ok text ↔ record.field? name = some (.string text) := by
  unfold textField
  cases hfield : record.field? name with
  | none => simp
  | some value => cases value <;> simp [Json.text?]

theorem field?_of_error {record : Json} {name : String} {e : RecordError}
    (h : textField record name = .error e) (text : String) :
    record.field? name ≠ some (.string text) := by
  rw [ne_eq, ← textField_ok_iff, h]
  exact nofun

theorem ofRecord_error_iff (record : Json) : (∃ e, ofRecord record = .error e) ↔ Untold record := by
  cases record with
  | object fields =>
    simp only [ofRecord, Bind.bind]
    -- field by field, in the order in which they are read
    cases hid : textField (.object fields) "durable-id" with
    | error e => exact iff_of_true ⟨e, rfl⟩ (.noText _ (by simp) (field?_of_error hid))
    | ok id =>
      cases htext : textField (.object fields) "health" with
      | error e => exact iff_of_true ⟨e, rfl⟩ (.noText _ (by simp) (field?_of_error htext))
      | ok text =>
        have htold := (textField_ok_iff _ _ _).1 htext
        simp only [Except.bind]
        cases hhealth : Health.parse? text with
        | none => exact iff_of_true ⟨_, rfl⟩ (.unknownHealth text htold hhealth)
        | some health =>
          cases hstatus : textField (.object fields) "status" with
          | error e => exact iff_of_true ⟨e, rfl⟩ (.noText _ (by simp) (field?_of_error hstatus))
          | ok status =>
            refine iff_of_false nofun ?_
            rintro (hnone | ⟨name, hneeded, huntold⟩ | ⟨text', htold', hunknown⟩)
            · cases hnone
            · simp only [ne_eq, ← textField_ok_iff] at huntold
              simp only [List.mem_cons, List.not_mem_nil, or_false] at hneeded
              rcases hneeded with rfl | rfl | rfl
              · exact huntold _ hid
              · exact huntold _ htext
              · exact huntold _ hstatus
            · rw [htold] at htold'
              cases htold'
              rw [hhealth] at hunknown
              cases hunknown
  | _ => exact iff_of_true ⟨_, rfl⟩ (.notObject rfl)

end FruStatus

/-- `Interspersed bad xs ys`: elements of a kind have been inserted into `xs`, anywhere, to make
`ys`. -/
inductive Interspersed {α : Type} (bad : α → Prop) : List α → List α → Prop
  | nil : Interspersed bad [] []
  | keep (x : α) {xs ys : List α} (rest : Interspersed bad xs ys) :
      Interspersed bad (x :: xs) (x :: ys)
  | insert (y : α) (rejected : bad y) {xs ys : List α} (rest : Interspersed bad xs ys) :
      Interspersed bad xs (y :: ys)

/-- Rejected records do not change what a snapshot tells. -/
theorem Interspersed.statuses_eq {records padded : List Json}
    (h : Interspersed FruStatus.Untold records padded) :
    FruSensor.statuses padded = FruSensor.statuses records := by
  induction h with
  | nil => rfl
  | keep record _ ih =>
    unfold FruSensor.statuses at ih ⊢
    rw [List.filterMap_cons, List.filterMap_cons, ih]
  | insert record hrejected _ ih =>
    obtain ⟨e, he⟩ := (FruStatus.ofRecord_error_iff record).2 hrejected
    rw [FruSensor.statuses, List.filterMap_cons_none (by rw [he]; rfl)]
    exact ih

/-! ## Answers without records -/

/-- The answer is a reply of success whose content is JSON that lists these records under a key. A
reply with status 204 has no content. -/
def ServiceAnswer.Lists (key : String) (records : List Json) : ServiceAnswer → Prop
  | reply status content => 200 ≤ status ∧ status < 300 ∧ status ≠ 204 ∧
      ∃ body, Json.parseBytes? ⟨content.toArray⟩ = some body ∧
        body.field? key = some (.array records)
  | _ => False

namespace ServiceClient

variable {key : String} {records : List Json}

/-- A reply gives the records that it lists, and there is no other way to get records. -/
theorem readReply_ok_iff (url : Url) (status : Nat) (content : List UInt8) :
    readReply url key status content = .ok records ↔
      (ServiceAnswer.reply status content).Lists key records := by
  unfold readReply
  by_cases hsuccess : isSuccess status = true
  · obtain ⟨hfrom, hto⟩ : 200 ≤ status ∧ status < 300 := by simpa [isSuccess] using hsuccess
    rw [if_pos hsuccess]
    by_cases hempty : status = 204
    · have hcontent : (if hasContent status then content else []) = [] := by
        simp [hasContent, hempty]
      have hnone : Json.parseBytes? ⟨([] : List UInt8).toArray⟩ = none := by decide
      simp only [hcontent, hnone]
      exact iff_of_false nofun fun h => h.2.2.1 hempty
    · have hcontent : (if hasContent status then content else []) = content :=
        if_pos (by simp only [hasContent, Bool.and_eq_true, decide_eq_true_eq]; omega)
      simp only [hcontent, ServiceAnswer.Lists, hfrom, hto, hempty, true_and, ne_eq,
        not_false_eq_true]
      cases Json.parseBytes? ⟨content.toArray⟩ with
      | none => simp
      | some body => simp [records?_eq_ok]
  · rw [if_neg hsuccess]
    exact iff_of_false nofun fun h => hsuccess (by simp [isSuccess, h.1, h.2.1])

theorem readAnswer_ok_iff (c : ServiceClient) (url : Url) (a : ServiceAnswer) :
    c.readAnswer url key a = .ok records ↔ a.Lists key records := by
  unfold readAnswer
  split
  · exact readReply_ok_iff url _ _
  · split <;> exact iff_of_false nofun id
  · exact iff_of_false nofun id
  · exact iff_of_false nofun id

/-- A fetch gives the records that the service lists, and there is no other way to get records. -/
theorem fetch_ok_iff {τ : Type} (c : ServiceClient) (path : String)
    (host : (r : HostRequest) → StateM τ r.Answer) (u : τ) :
    ((c.fetch path key).run host u).1 = .ok records ↔
      ∃ url, c.endpoint path = .ok url ∧ (host (.get url) u).1.Lists key records := by
  unfold fetch
  cases hurl : c.endpoint path with
  | error e => exact iff_of_false nofun (by simp)
  | ok url =>
    simp only [Except.ok.injEq, exists_eq_left']
    exact c.readAnswer_ok_iff url _

theorem only_fetch (c : ServiceClient) (path : String) :
    Only (fun r => ∃ url, r = .get url) (c.fetch path key) := by
  unfold fetch
  cases c.endpoint path with
  | error e => trivial
  | ok url => exact ⟨⟨url, rfl⟩, fun _ => trivial⟩

end ServiceClient

/-! ## Cycles -/

/-- The answers of some surroundings, in which the service gives these records or fails. -/
def serving {σ : Type} (given : Except SourceError (List Json))
    (handle : (r : Request) → StateM σ r.Answer) : (r : Request) → StateM σ r.Answer
  | .records _ _ => fun t => (given, t)
  | r => handle r

namespace FruSensor

variable {σ : Type} (handle : (r : Request) → StateM σ r.Answer)

def asksElse : Request → Prop
  | .records _ _ => False
  | _ => True

theorem only_takeIn (s : FruSensor) (status : FruStatus) : Only asksElse (s.takeIn status) := by
  unfold takeIn
  split
  · trivial
  · exact ⟨trivial, fun _ => ⟨trivial, fun _ => ⟨trivial, fun _ => ⟨trivial, fun a => by
      cases a <;> trivial⟩⟩⟩⟩

theorem only_takeInAll (s : FruSensor) (statuses : List FruStatus) :
    Only asksElse (s.takeInAll statuses) := by
  induction statuses generalizing s with
  | nil => trivial
  | cons status rest ih => exact (s.only_takeIn status).bind ih

theorem only_takeSnapshot (s : FruSensor) (given : Except SourceError (List Json)) :
    Only asksElse (s.takeSnapshot given) := by
  cases given with
  | error e => trivial
  | ok records => exact (s.only_takeInAll _).bind fun _ => trivial

/-- A cycle is what is done with the snapshot that the service gives. -/
theorem run_poll_serving (s : FruSensor) (given : Except SourceError (List Json)) (t : σ) :
    s.poll.run (serving given handle) t = (s.takeSnapshot given).run handle t := by
  rw [s.poll_eq]
  refine (s.only_takeSnapshot given).run_congr (fun r hr => ?_) t
  cases r with
  | records path key => exact hr.elim
  | _ => rfl

/-- A sensor whose client gets no records stays as it is, and the host is asked for nothing but the
resource. -/
theorem poll_of_unlisted {τ : Type} (s : FruSensor) (o : Agent.Output) (c : ServiceClient)
    (host : (r : HostRequest) → StateM τ r.Answer) (u : τ)
    (h : ¬∃ records, ((c.fetch s.kind.apiPath s.kind.responseKey).run host u).1 = .ok records) :
    ((s.poll.translate (Agent.serveFru o c)).run host u).1.2 = s ∧
      ∀ x ∈ (s.poll.translate (Agent.serveFru o c)).exchanges host u,
        ∃ url, x.request = .get url := by
  obtain ⟨e, he⟩ : ∃ e, ((c.fetch s.kind.apiPath s.kind.responseKey).run host u).1 = .error e := by
    cases hgiven : ((c.fetch s.kind.apiPath s.kind.responseKey).run host u).1 with
    | error e => exact ⟨e, rfl⟩
    | ok records => exact absurd ⟨records, hgiven⟩ h
  have hpoll : s.poll.translate (Agent.serveFru o c) =
      (c.fetch s.kind.apiPath s.kind.responseKey).bind
        fun given => (s.takeSnapshot given).translate (Agent.serveFru o c) := by
    rw [s.poll_eq]
    rfl
  rw [hpoll]
  constructor
  · rw [run_bind]
    change (((s.takeSnapshot ((c.fetch _ _).run host u).1).translate _).run host _).1.2 = s
    rw [he]
    rfl
  · rw [exchanges_bind, he]
    change ∀ x ∈ (c.fetch _ _).exchanges host u ++ [], _
    rw [List.append_nil]
    exact (c.only_fetch _).exchanges host u

end FruSensor

/-- **Data that tell nothing are without effect.** Unless the service answers with a reply of
success that lists records under the key of the category, a cycle leaves the sensor as it is and
asks the host for nothing but the resource: no alert is handed over and no file is touched. The same
holds if the service fails for any other reason. Records are rejected if they tell no status;
inserted among others, as many as there may be and anywhere, they change neither what the cycle
comes to nor what it leaves of its surroundings. -/
theorem unusable_data_unnoticed {σ τ : Type} (s : FruSensor)
    (handle : (r : Request) → StateM σ r.Answer) (t : σ)
    (host : (r : HostRequest) → StateM τ r.Answer) (u : τ) :
    (∀ (o : Agent.Output) (c : ServiceClient),
      (¬∃ url records, c.endpoint s.kind.apiPath = .ok url ∧
        (host (.get url) u).1.Lists s.kind.responseKey records) →
      ((s.poll.translate (Agent.serveFru o c)).run host u).1.2 = s ∧
        ∀ x ∈ (s.poll.translate (Agent.serveFru o c)).exchanges host u,
          ∃ url, x.request = .get url) ∧
    (∀ e, s.poll.run (serving (.error e) handle) t = ((.ofResult (.error e), s), t)) ∧
    (∀ record, (∃ e, FruStatus.ofRecord record = .error e) ↔ FruStatus.Untold record) ∧
    ∀ records padded, Interspersed FruStatus.Untold records padded →
      s.poll.run (serving (.ok padded) handle) t = s.poll.run (serving (.ok records) handle) t := by
  refine ⟨fun o c hunlisted => s.poll_of_unlisted o c host u ?_, fun e => ?_,
    FruStatus.ofRecord_error_iff, fun records padded h => ?_⟩
  · rintro ⟨records, hgiven⟩
    obtain ⟨url, hurl, hlists⟩ := (c.fetch_ok_iff _ host u).1 hgiven
    exact hunlisted ⟨url, records, hurl, hlists⟩
  · rw [FruSensor.run_poll_serving]
    rfl
  · rw [FruSensor.run_poll_serving, FruSensor.run_poll_serving, FruSensor.takeSnapshot,
      FruSensor.takeSnapshot, h.statuses_eq]

namespace FruTrial

/-- The records, and others that tell nothing: no object, no identity, no known health and no text
as status. -/
def padded : List Json :=
  [.null, unit "0" "Fault" "Operational",
    .object [("health", .string "OK"), ("status", .string "Up")],
    unit "1" "Unknown" "Up", unit "1" "Fault" "Not Installed",
    .object [("durable-id", .string "2"), ("health", .string "Fault"), ("status", .ofNat 1)]]

theorem interspersed : Interspersed FruStatus.Untold records padded :=
  .insert _ (.notObject rfl) <| .keep _ <|
    .insert _ (.noText "durable-id" (by decide) (by simp [Json.field?, Json.fields?])) <|
    .insert _ (.unknownHealth "Unknown" rfl (by decide)) <| .keep _ <|
    .insert _ (.noText "status" (by decide) (by simp [Json.field?, Json.fields?, Json.ofNat])) .nil

/-- A service that fails every request with 503. -/
def host : HostModel where
  name := "host"
  time := "0"
  salt := ""
  tree := .empty
  programs := fun _ _ => .notFound
  services := fun _ => .reply 503 []

def client : ServiceClient := ⟨⟨"http", "", "", none, none, .segments [""], none, none⟩⟩

end FruTrial

open FruTrial in
/-- A service that fails with 503 leaves a sensor as it is, and the records between which others
have been inserted are taken in as without them. -/
theorem unusable_data_unnoticed_trial :
    ((sensor.poll.translate (Agent.serveFru ⟨none, ⟨.lines, none⟩⟩ client)).run HostModel.serve
        host).1.2 = sensor ∧
      Interspersed FruStatus.Untold records padded ∧
      sensor.poll.run (serving (.ok padded) (luck.answer (.ok []))) (site, 0) =
        sensor.poll.run (serving (.ok records) (luck.answer (.ok []))) (site, 0) := by
  obtain ⟨hunlisted, -, -, hpadded⟩ := unusable_data_unnoticed sensor (luck.answer (.ok []))
    (site, 0) HostModel.serve host
  refine ⟨(hunlisted _ _ ?_).1, interspersed, hpadded _ _ interspersed⟩
  rintro ⟨url, listed, -, hlists⟩
  exact absurd hlists.2.1 (by decide)

end HealthAgent
