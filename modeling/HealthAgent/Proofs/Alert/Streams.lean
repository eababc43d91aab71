import HealthAgent.Alert.Sink
import HealthAgent.Proofs.Json.Canonical
import HealthAgent.Proofs.Program.Runs
import HealthAgent.Proofs.Text.Lines
/-!
# The stream of alerts and its mirror

A stream gets one line per alert. What comes from the hardware, line ends and quotes included,
stands escaped in the line, so a reader can cut the stream at the line ends and decode each piece.
The log of important events gets the same line, once more escaped, as the message of a request.

Deliveries are told apart from the receivers that carry them out: `Handing` is an alert that is
handed to the primary receiver or to the mirror, and a delivery is a program of handings, which may
be answered in any way.

Results:
* `parse?_line`, `plain_line`: an alert's line is plain and is read back as its envelope.
* `loggedMessage?_eventText`: the message of the request to log an alert is the alert's line.
* `textLines_streamOf`: a stream is cut into the lines that were written to it.
* `translate_handAll`: deliveries are handings, each carried out by its receiver.
* `alerts_streamed`: what the stream, the mirror and each receiver get, and what is told of it.
-/
namespace HealthAgent
open Program

/-! ## The text of an alert -/

namespace Json

theorem fieldsWhole_texts (d : List (String × String)) :
    fieldsWhole (d.map fun (k, v) => (k, .string v)) = true := by
  induction d with
  | nil => rfl
  | cons e rest ih => exact ih

theorem fieldsNesting_texts (d : List (String × String)) :
    fieldsNesting (d.map fun (k, v) => (k, .string v)) = 0 := by
  induction d with
  | nil => rfl
  | cons e rest ih => simp [fieldsNesting, nesting, ih]

theorem sorted_ofTexts (d : Dict String) : Sorted (ofTexts d) := by
  have hfields : ∀ es : List (String × String),
      FieldsSorted (es.map fun (k, v) => (k, .string v)) := by
    intro es
    induction es with
    | nil => trivial
    | cons e rest ih => exact ⟨trivial, ih⟩
  exact ⟨List.pairwise_map.2 d.sorted, hfields d.entries⟩

theorem isWhole_word (n : UInt32) : isWhole (.ofNat n.toNat) = true := by
  have hlt := n.toNat_lt
  simp only [ofNat, isWhole, Number.isWhole, Bool.and_eq_true, decide_eq_true_eq]
  omega

end Json

namespace AlertRecord
open Json

variable (r : AlertRecord)

theorem isWhole_envelope : isWhole r.envelope = true := by
  have hinfo : isWhole r.info.toJson = true := by
    simp [AlertInfo.toJson, isWhole, fieldsWhole, isWhole_word]
  have hspecific : isWhole (.ofTexts r.specificInfo) = true :=
    fieldsWhole_texts r.specificInfo.entries
  cases hr : r.origin <;>
    simp [envelope, body, hr, fields, isWhole, fieldsWhole, hinfo, hspecific]

theorem nesting_envelope : nesting r.envelope ≤ maxDepth := by
  have hspecific : nesting (.ofTexts r.specificInfo) = 1 := by
    simp [ofTexts, nesting, fieldsNesting_texts]
  cases hr : r.origin <;>
    simp [envelope, body, hr, fields, AlertInfo.toJson, nesting, fieldsNesting, hspecific, ofNat,
      maxDepth]

theorem sorted_envelope : Sorted r.envelope := by
  have hinfo : Sorted r.info.toJson := by
    refine ⟨List.pairwise_map.1 (by decide : List.Pairwise (· < ·) ["cluster_id", "event_time",
      "node_id", "rack_id", "resource_id", "resource_type", "site_id"]), ?_⟩
    simp [FieldsSorted, Sorted, ofNat]
  have hspecific := sorted_ofTexts r.specificInfo
  have hnames : List.Pairwise (fun a b => a.1 < b.1) (r.fields ++ [("status", string "update")]) :=
    List.pairwise_map.1 (by decide : List.Pairwise (· < ·)
      ["alert_id", "alert_type", "host_id", "info", "severity", "specific_info", "status"])
  have hbody : Sorted r.body := by
    cases hr : r.origin <;> rw [body, hr]
    · refine ⟨hnames.sublist (List.sublist_append_left _ _), ?_⟩
      simp [fields, FieldsSorted, Sorted, hinfo, hspecific]
    · refine ⟨hnames, ?_⟩
      simp [fields, FieldsSorted, Sorted, hinfo, hspecific]
  simp [envelope, Sorted, FieldsSorted, hbody]

/-- An alert's line is read back as its envelope. -/
theorem parse?_line : Json.parse? r.line = some r.envelope :=
  parse?_compress r.isWhole_envelope r.sorted_envelope r.nesting_envelope

theorem plain_line : Plain r.line.toList := by
  rw [line, compress, String.toList_ofList]
  exact plain_print _

end AlertRecord

/-- The message of a request to log an important event. -/
def loggedMessage? (text : String) : Option String := do
  let request ← Json.parse? text
  let logging ← (← request.field? "actuator_request_type").field? "logging"
  (← logging.field? "log_msg").text?

theorem parse?_eventText (r : AlertRecord) : Json.parse? r.eventText = some r.eventRequest := by
  have hnames : List.Pairwise (fun a b => a.1 < b.1) [("log_level", Json.string "LOG_WARNING"),
      ("log_msg", .string r.line), ("log_type", .string "IEM")] :=
    List.pairwise_map.1 (by decide : List.Pairwise (· < ·) ["log_level", "log_msg", "log_type"])
  have hsorted : r.eventRequest.Sorted := by
    simp only [AlertRecord.eventRequest, Json.Sorted, Json.FieldsSorted, hnames,
      List.pairwise_singleton, and_true]
  have hnesting : r.eventRequest.nesting = 3 := by
    simp [AlertRecord.eventRequest, Json.nesting, Json.fieldsNesting]
  exact Json.parse?_compress rfl hsorted (by rw [hnesting]; decide)

theorem loggedMessage?_eventText (r : AlertRecord) : loggedMessage? r.eventText = some r.line := by
  rw [loggedMessage?, parse?_eventText]
  rfl

/-! ## A stream that takes every text -/

namespace Text

/-- Behind a line without line ends, the lines of a text go on. -/
theorem lines_line {line : List Char} (hfeed : '\n' ∉ line) (hreturn : '\r' ∉ line)
    (rest : List Char) : lines (line ++ '\n' :: rest) = line :: lines rest := by
  have hkept : dropReturn line = line :=
    if_neg fun hlast => hreturn (List.mem_of_getLast? hlast)
  rw [lines_feed hfeed, hkept]

end Text

/-- What a stream has been given, and what has been logged as important events. -/
structure Streams where
  stream : String
  logged : List (LogLevel × String)

/-- A stream that takes every text, consumers that take every alert, and a log. -/
def Streams.handle : (r : SinkRequest) → StateM Streams r.Answer
  | .write text => fun t => (.ok (), { t with stream := t.stream ++ text })
  | .flush => fun t => (.ok (), t)
  | .send _ _ => fun t => (true, t)
  | .log level text => fun t => ((), { t with logged := t.logged ++ [(level, text)] })

/-- Delivers alerts one after the other; tells for each whether the primary receiver took it. -/
def Dispatcher.deliverAll (d : Dispatcher) : List AlertRecord → SinkProgram (List Bool)
  | [] => .done []
  | r :: rest => do
    let taken ← d.deliver r
    let more ← deliverAll d rest
    return taken :: more

/-- The text of lines, each with its line end. -/
def streamOf (lines : List String) : String :=
  lines.foldr (fun line text => line ++ "\n" ++ text) ""

theorem textLines_streamOf {lines : List String} (h : ∀ line ∈ lines, Json.Plain line.toList) :
    (streamOf lines).textLines = lines := by
  induction lines with
  | nil => rfl
  | cons line rest ih =>
    obtain ⟨hline, hrest⟩ := List.forall_mem_cons.1 h
    have htext : (streamOf (line :: rest)).toList =
        line.toList ++ '\n' :: (streamOf rest).toList := by
      simp [streamOf]
    have hcut := Text.lines_line hline.unbroken.1 hline.unbroken.2 (streamOf rest).toList
    have hrest := ih hrest
    rw [String.textLines] at hrest ⊢
    rw [htext, hcut, List.map_cons, hrest, String.ofList_toList]

/-- A stream that takes every text gets the lines of the alerts, and its mirror the requests to log
them. -/
theorem deliverAll_handle (level : LogLevel) (alerts : List AlertRecord) (t : Streams) :
    ((⟨.lines, some (.events level)⟩ : Dispatcher).deliverAll alerts).run Streams.handle t =
      (alerts.map fun _ => true, {
        stream := t.stream ++ streamOf (alerts.map (·.line))
        logged := t.logged ++ alerts.map fun r => (level, "IEC: " ++ r.eventText) }) := by
  induction alerts generalizing t with
  | nil => simp [Dispatcher.deliverAll, streamOf, run]; rfl
  | cons r rest ih =>
    have hfirst : ((⟨.lines, some (.events level)⟩ : Dispatcher).deliver r).run Streams.handle t =
        (true, ⟨t.stream ++ r.line ++ "\n", t.logged ++ [(level, "IEC: " ++ r.eventText)]⟩) := rfl
    have hrest := ih ⟨t.stream ++ r.line ++ "\n", t.logged ++ [(level, "IEC: " ++ r.eventText)]⟩
    rw [Dispatcher.deliverAll, bind_eq, run_bind_state, hfirst, bind_eq, run_bind_state, hrest,
      run_pure_state]
    simp [streamOf, String.append_assoc]

/-! ## Handings -/

/-- The two places of a dispatcher. -/
inductive Place where
  | primary | mirror

/-- An alert that is handed to the receiver of a place. -/
structure Handing where
  place : Place
  alert : AlertRecord

abbrev HandingProgram (α : Type) := Program Handing (fun _ => Except SinkError Unit) α

namespace Dispatcher

/-- A delivery as handings. -/
def hand (d : Dispatcher) (r : AlertRecord) : HandingProgram Bool := do
  let result ← Program.ask (Handing.mk .primary r)
  match d.mirror with
  | none => pure ()
  | some _ => let _ ← Program.ask (Handing.mk .mirror r)
  return result.toBool

def handAll (d : Dispatcher) : List AlertRecord → HandingProgram (List Bool)
  | [] => .done []
  | r :: rest => do
    let taken ← d.hand r
    let more ← handAll d rest
    return taken :: more

/-- The receiver of a place carries out a handing. -/
def carryOut (d : Dispatcher) : Handing → SinkProgram (Except SinkError Unit)
  | ⟨.primary, r⟩ => d.primary.publish r
  | ⟨.mirror, r⟩ => match d.mirror with
    | some m => m.publish r
    | none => .done (.ok ())

theorem translate_hand (d : Dispatcher) (r : AlertRecord) :
    (d.hand r).translate d.carryOut = d.deliver r := by
  obtain ⟨primary, mirror⟩ := d
  cases mirror <;> rfl

/-- Deliveries are handings, each carried out by its receiver. -/
theorem translate_handAll (d : Dispatcher) (alerts : List AlertRecord) :
    (d.handAll alerts).translate d.carryOut = d.deliverAll alerts := by
  induction alerts with
  | nil => rfl
  | cons r rest ih =>
    simp only [handAll, deliverAll, bind_eq, translate_bind, translate_hand, ih]
    rfl

end Dispatcher

/-- The alerts that have been handed to each place. -/
structure Handed where
  primary : List AlertRecord
  mirror : List AlertRecord

/-- Takes note of a handing; the `n`-th at a place is answered by `answer place n`. -/
def Handed.handle (answer : Place → Nat → Except SinkError Unit) :
    (h : Handing) → StateM Handed (Except SinkError Unit)
  | ⟨.primary, r⟩ => fun t =>
    (answer .primary t.primary.length, { t with primary := t.primary ++ [r] })
  | ⟨.mirror, r⟩ => fun t => (answer .mirror t.mirror.length, { t with mirror := t.mirror ++ [r] })

/-- Whatever the answers, every alert is handed to both places, in order. -/
theorem Dispatcher.handAll_handle (d : Dispatcher) (answer : Place → Nat → Except SinkError Unit)
    (alerts : List AlertRecord) (t : Handed) :
    (d.handAll alerts).run (Handed.handle answer) t =
      ((List.range' t.primary.length alerts.length).map fun n => (answer .primary n).toBool, {
        primary := t.primary ++ alerts
        mirror := if d.mirror.isSome then t.mirror ++ alerts else t.mirror }) := by
  induction alerts generalizing t with
  | nil => simp [handAll, run]; rfl
  | cons r rest ih =>
    have hfirst : (d.hand r).run (Handed.handle answer) t =
        ((answer .primary t.primary.length).toBool, {
          primary := t.primary ++ [r]
          mirror := if d.mirror.isSome then t.mirror ++ [r] else t.mirror }) := by
      obtain ⟨primary, mirror⟩ := d
      cases mirror <;> rfl
    rw [handAll, bind_eq, run_bind_state, hfirst, bind_eq, run_bind_state, ih, run_pure_state]
    cases d.mirror <;> simp [List.range'_succ]

/-! ## All receivers -/

/-- **One stream, one mirror, the same alerts.** A stream that takes every text gets one line per
alert, in order. No line holds a control character; each is read back as the envelope of its alert,
and is the message of the request that the mirror logs for the alert. Whatever fails, at whichever
of two receivers, each is handed every alert once and in order, and a delivery tells whether the
primary receiver took the alert. -/
theorem alerts_streamed (alerts : List AlertRecord) :
    (∀ level, ∃ told : Streams,
      ((⟨.lines, some (.events level)⟩ : Dispatcher).deliverAll alerts).run Streams.handle
        ⟨"", []⟩ = (alerts.map fun _ => true, told) ∧
      told.stream = streamOf (alerts.map (·.line)) ∧
      told.stream.textLines = alerts.map (·.line) ∧
      (∀ line ∈ told.stream.textLines, ∀ c ∈ line.toList, 0x20 ≤ c.toNat) ∧
      told.stream.textLines.map Json.parse? = alerts.map (some ·.envelope) ∧
      told.logged = alerts.map (fun r => (level, "IEC: " ++ r.eventText)) ∧
      alerts.map (fun r => loggedMessage? r.eventText) = told.stream.textLines.map some) ∧
    ∀ (d : Dispatcher) (answer : Place → Nat → Except SinkError Unit),
      (d.handAll alerts).translate d.carryOut = d.deliverAll alerts ∧
      (d.handAll alerts).run (Handed.handle answer) ⟨[], []⟩ =
        ((List.range alerts.length).map fun n => (answer .primary n).toBool,
          ⟨alerts, if d.mirror.isSome then alerts else []⟩) := by
  refine ⟨fun level => ?_, fun d answer => ⟨d.translate_handAll alerts, ?_⟩⟩
  · have hplain : ∀ line ∈ alerts.map (·.line), Json.Plain line.toList := by
      intro line hline
      obtain ⟨r, -, rfl⟩ := List.mem_map.1 hline
      exact r.plain_line
    have hlines := textLines_streamOf hplain
    have htold := deliverAll_handle level alerts ⟨"", []⟩
    rw [String.empty_append, List.nil_append] at htold
    refine ⟨_, htold, rfl, hlines, ?_⟩
    rw [hlines]
    refine ⟨hplain, ?_, rfl, ?_⟩
    · simp [AlertRecord.parse?_line]
    · simp [loggedMessage?_eventText]
  · rw [d.handAll_handle, List.range_eq_range']
    simp

end HealthAgent
