import Mathlib.Data.List.Induction
import HealthAgent.Proofs.Alert.Envelopes
import HealthAgent.Proofs.Json.BrokenOff
import HealthAgent.Proofs.Text.Encoding
/-!
# Lines that a failed write has broken off

A stream may take a part of what is written to it and then fail, and take the next writes again. What it
has taken of a line stays, without a line end, and the next line is written right behind it. So the
alert after a failed one is published, its line is complete, and nobody can read it. The lines behind
that one are whole again.

The stream is told here in bytes, since a write may break off within a character. `Output.handle fault`
is a stream that fails as `fault` tells, request by request; every way in which a stream may fail in the
course of given alerts is told by one `fault`.

Results:
* `publish_piece`: what one publication leaves in the stream.
* `parseBytes?_parts`: parts of lines, one behind the other, are no JSON text.
* `published_line_read_iff`: of the alerts that have been published, those can be read whose line was
  written to its end where nothing stood open.
-/
namespace HealthAgent
open Program Text

/-! ## Lines of a stream -/

def lineEnd : UInt8 := 10

/-- The complete lines of a stream, without their ends. -/
def completeLines (bytes : List UInt8) : List (List UInt8) := (bytes.splitOn lineEnd).dropLast

/-- What a stream holds behind its last line end. -/
def openLine (bytes : List UInt8) : List UInt8 := (bytes.splitOn lineEnd).getLastD []

theorem lines_of_splitOn {bytes line : List UInt8} {lines : List (List UInt8)}
    (h : bytes.splitOn lineEnd = lines ++ [line]) :
    completeLines bytes = lines ∧ openLine bytes = line := by
  simp [completeLines, openLine, h]

theorem splitOn_eq_lines (bytes : List UInt8) :
    bytes.splitOn lineEnd = completeLines bytes ++ [openLine bytes] := by
  obtain ⟨lines, line, hcut⟩ : ∃ lines line, bytes.splitOn lineEnd = lines ++ [line] :=
    (List.eq_nil_or_concat' _).resolve_left (List.splitOn_ne_nil lineEnd bytes)
  rw [(lines_of_splitOn hcut).1, (lines_of_splitOn hcut).2, hcut]

theorem splitOn_append_unbroken (bytes : List UInt8) {part : List UInt8} (h : lineEnd ∉ part) :
    (bytes ++ part).splitOn lineEnd = completeLines bytes ++ [openLine bytes ++ part] := by
  by_cases hend : lineEnd ∈ bytes
  · obtain ⟨line, rest, rfl, hline⟩ := List.eq_append_cons_of_mem hend
    have ih := splitOn_append_unbroken rest h
    have hcut : (line ++ lineEnd :: rest).splitOn lineEnd =
        (line :: completeLines rest) ++ [openLine rest] := by
      rw [List.splitOn_append_cons_self_of_not_mem hline, splitOn_eq_lines rest, List.cons_append]
    rw [(lines_of_splitOn hcut).1, (lines_of_splitOn hcut).2, List.append_assoc, List.cons_append,
      List.splitOn_append_cons_self_of_not_mem hline, ih, List.cons_append]
  · have hcut : bytes.splitOn lineEnd = [] ++ [bytes] := List.splitOn_eq_singleton hend
    have hwhole : lineEnd ∉ bytes ++ part := by simp [hend, h]
    rw [(lines_of_splitOn hcut).1, (lines_of_splitOn hcut).2, List.splitOn_eq_singleton hwhole]
    rfl
termination_by bytes.length

theorem lines_append_unbroken (bytes : List UInt8) {part : List UInt8} (h : lineEnd ∉ part) :
    completeLines (bytes ++ part) = completeLines bytes ∧
      openLine (bytes ++ part) = openLine bytes ++ part :=
  lines_of_splitOn (splitOn_append_unbroken bytes h)

theorem lines_append_line (bytes : List UInt8) {part : List UInt8} (h : lineEnd ∉ part) :
    completeLines (bytes ++ (part ++ [lineEnd])) =
      completeLines bytes ++ [openLine bytes ++ part] ∧
        openLine (bytes ++ (part ++ [lineEnd])) = [] := by
  have hcut := List.splitOn_append_cons_self (a := lineEnd) (bytes ++ part) []
  rw [List.splitOn_nil, splitOn_append_unbroken bytes h, List.append_assoc bytes] at hcut
  exact lines_of_splitOn hcut

theorem completeLines_append (bytes more : List UInt8) :
    completeLines bytes <+: completeLines (bytes ++ more) := by
  by_cases hend : lineEnd ∈ more
  · obtain ⟨part, rest, rfl, hpart⟩ := List.eq_append_cons_of_mem hend
    have hcut : (bytes ++ (part ++ lineEnd :: rest)).splitOn lineEnd =
        (completeLines bytes ++ [openLine bytes ++ part] ++ completeLines rest) ++
          [openLine rest] := by
      rw [← List.append_assoc, List.splitOn_append_cons_self, splitOn_append_unbroken bytes hpart,
        splitOn_eq_lines rest, List.append_assoc _ (completeLines rest)]
    rw [(lines_of_splitOn hcut).1, List.append_assoc]
    exact List.prefix_append _ _
  · simp only [(lines_append_unbroken bytes hend).1, List.prefix_refl]

/-! ## A stream that fails -/

/-- What a stream holds, and how many requests have been made of it. -/
structure Output where
  bytes : List UInt8
  asked : Nat

/-- A stream whose `n`-th request, counted from zero, fails if `fault n` tells a reason; of a text that
was to be written, the stream has then taken as many bytes as `fault n` tells. -/
def Output.handle (fault : Nat → Option (Nat × String)) : (r : SinkRequest) → StateM Output r.Answer
  | .write text => fun out => match fault out.asked with
    | none => (.ok (), ⟨out.bytes ++ utf8 text.toList, out.asked + 1⟩)
    | some (taken, reason) =>
      (.error reason, ⟨out.bytes ++ (utf8 text.toList).take taken, out.asked + 1⟩)
  | .flush => fun out => match fault out.asked with
    | none => (.ok (), ⟨out.bytes, out.asked + 1⟩)
    | some (_, reason) => (.error reason, ⟨out.bytes, out.asked + 1⟩)
  | .send _ _ => fun out => (true, out)
  | .log _ _ => fun out => ((), out)

/-- Publishes alerts one after the other; tells for each whether it was taken. -/
def Sink.publishAll (s : Sink) : List AlertRecord → SinkProgram (List (Except SinkError Unit))
  | [] => .done []
  | r :: rest => do
    let result ← s.publish r
    let more ← publishAll s rest
    return result :: more

/-- The bytes of an alert's line, without its end. -/
def AlertRecord.lineBytes (r : AlertRecord) : List UInt8 := utf8 r.line.toList

section Publishing

variable (fault : Nat → Option (Nat × String)) (r : AlertRecord) (out : Output)

theorem Output.handle_write (text : String) :
    Output.handle fault (.write text) out =
        (.ok (), ⟨out.bytes ++ utf8 text.toList, out.asked + 1⟩) ∨
      ∃ piece reason, piece <+: utf8 text.toList ∧ Output.handle fault (.write text) out =
        (.error reason, ⟨out.bytes ++ piece, out.asked + 1⟩) := by
  cases hfault : fault out.asked with
  | none => exact .inl (by simp only [handle, hfault])
  | some failure =>
    obtain ⟨taken, reason⟩ := failure
    exact .inr ⟨_, reason, List.take_prefix taken _, by simp only [handle, hfault]⟩

theorem Output.handle_flush : ∃ result,
    Output.handle fault .flush out = (result, ⟨out.bytes, out.asked + 1⟩) := by
  cases hfault : fault out.asked with
  | none => exact ⟨.ok (), by simp only [handle, hfault]⟩
  | some failure => exact ⟨.error failure.2, by simp only [handle, hfault]⟩

theorem utf8_feed : utf8 "\n".toList = [lineEnd] := rfl

/-- A publication leaves a beginning of the alert's line, or all of it with its end. If the alert is
taken, all of it is left. -/
theorem publish_piece : ∃ piece result asked,
    (Sink.lines.publish r).run (Output.handle fault) out = (result, ⟨out.bytes ++ piece, asked⟩) ∧
      (piece = r.lineBytes ++ [lineEnd] ∨ piece <+: r.lineBytes ∧ result ≠ .ok ()) := by
  simp only [Sink.publish, bind_eq]
  rw [run_bind_state, run_ask_state]
  rcases Output.handle_write fault out r.line with hline | ⟨piece, reason, hpiece, hline⟩
  · rw [hline]
    simp only
    rw [run_bind_state, run_ask_state]
    rcases Output.handle_write fault ⟨out.bytes ++ utf8 r.line.toList, out.asked + 1⟩ "\n" with
      hend | ⟨piece, reason, hpiece, hend⟩
    · obtain ⟨result, hflush⟩ := Output.handle_flush fault
        ⟨out.bytes ++ utf8 r.line.toList ++ [lineEnd], out.asked + 1 + 1⟩
      refine ⟨r.lineBytes ++ [lineEnd], result.mapError .inputOutput, out.asked + 3, ?_, .inl rfl⟩
      rw [hend, utf8_feed]
      simp only
      rw [run_bind_state, run_ask_state, hflush, List.append_assoc]
      cases result <;> rfl
    · refine ⟨r.lineBytes ++ piece, .error (.inputOutput reason), out.asked + 2, ?_, ?_⟩
      · rw [hend, List.append_assoc]
        rfl
      · rw [utf8_feed] at hpiece
        rcases List.prefix_cons_iff.1 hpiece with rfl | ⟨rest, rfl, hrest⟩
        · exact .inr ⟨by simp, by simp⟩
        · rw [List.prefix_nil.1 hrest]
          exact .inl rfl
  · rw [hline]
    exact ⟨piece, .error (.inputOutput reason), out.asked + 1, rfl, .inr ⟨hpiece, by simp⟩⟩

/-- If the first write of a publication fails, a beginning of the line is left. -/
theorem publish_broken_off {taken : Nat} {reason : String}
    (h : fault out.asked = some (taken, reason)) :
    (Sink.lines.publish r).run (Output.handle fault) out =
      (.error (.inputOutput reason), ⟨out.bytes ++ r.lineBytes.take taken, out.asked + 1⟩) := by
  simp only [Sink.publish, bind_eq]
  rw [run_bind_state, run_ask_state]
  simp only [Output.handle, h]
  rfl

end Publishing

/-! ## Pieces of lines -/

namespace AlertRecord

variable (r : AlertRecord)

/-- A line is the text of an object whose first name starts like no part of a JSON text. -/
theorem line_front : ∃ fields tail, r.line.toList = Json.print (.object fields) ∧
    Json.fieldsWhole fields = true ∧
      Json.print (.object fields) = '\x7b' :: '"' :: 's' :: tail := by
  have hname : "sensor_request_type".toList.flatMap Json.encodeChar =
      's' :: "ensor_request_type".toList := by decide
  refine ⟨[("sensor_request_type", .object [(r.origin.name, r.body)])],
    "ensor_request_type".toList ++ '"' :: ':' ::
      (Json.print (.object [(r.origin.name, r.body)]) ++ ['\x7d']), ?_, r.isWhole_envelope, ?_⟩
  · rw [line, Json.compress, String.toList_ofList]
    rfl
  · rw [Json.print, Json.printString, hname, Json.printFields]
    simp

theorem lineBytes_front : ∃ tail, r.lineBytes = 0x7B :: tail := by
  obtain ⟨fields, tail, hline, -, hfront⟩ := r.line_front
  have hbrace : String.utf8EncodeChar '\x7b' = [0x7B] := rfl
  exact ⟨utf8 ('"' :: 's' :: tail), by rw [lineBytes, hline, hfront, utf8_cons, hbrace]; rfl⟩

theorem lineEnd_not_mem : lineEnd ∉ r.lineBytes := by
  refine not_mem_utf8 (by decide) fun c hc => ?_
  have hlow := r.plain_line c hc
  have hend : lineEnd.toNat = 10 := rfl
  omega

end AlertRecord

/-- A part of an alert's line, as a stream may have taken it. -/
def LinePart (part : List UInt8) : Prop := part ≠ [] ∧ ∃ r : AlertRecord, part <+: r.lineBytes

theorem LinePart.front {part : List UInt8} (h : LinePart part) : ∃ rest, part = 0x7B :: rest := by
  obtain ⟨hne, r, hbegins⟩ := h
  obtain ⟨tail, hfront⟩ := r.lineBytes_front
  obtain ⟨b, rest, rfl⟩ := List.exists_cons_of_ne_nil hne
  rw [hfront] at hbegins
  obtain ⟨rfl, -⟩ := List.cons_prefix_cons.1 hbegins
  exact ⟨rest, rfl⟩

theorem LinePart.piece {text : List Char} (h : LinePart (utf8 text)) : Json.Piece text := by
  obtain ⟨hne, r, hbegins⟩ := h
  obtain ⟨fields, tail, hline, hwhole, hfront⟩ := r.line_front
  refine ⟨?_, fields, 's' :: tail, hwhole, hfront, ?_, hline ▸ prefix_of_utf8_prefix hbegins⟩
  · rintro rfl
    exact hne rfl
  · rintro c ⟨⟩
    decide

theorem linePart_lineBytes (r : AlertRecord) : LinePart r.lineBytes := by
  obtain ⟨tail, hfront⟩ := r.lineBytes_front
  exact ⟨by simp [hfront], r, List.prefix_refl _⟩

theorem parseBytes?_parts {parts : List (List UInt8)} (h : ∀ part ∈ parts, LinePart part)
    (hmany : 1 < parts.length) : Json.parseBytes? parts.flatten.toByteArray = none := by
  rw [Json.parseBytes?]
  cases htext : String.fromUTF8? parts.flatten.toByteArray with
  | none => rfl
  | some text =>
    have hbytes : utf8 text.toList = parts.flatten := (utf8_of_fromUTF8? htext).symm
    obtain ⟨texts, htexts, rfl⟩ := utf8_eq_flatten hbytes fun part hpart => by
      obtain ⟨rest, rfl⟩ := (h part hpart).front
      exact ⟨_, rest, rfl, by decide⟩
    have hpieces : ∀ piece ∈ texts, Json.Piece piece := fun piece hpiece =>
      (h _ (List.mem_map_of_mem hpiece)).piece
    rw [List.length_map] at hmany
    rw [Option.bind_some, Json.parse?, htexts, Json.scanAll?_glued hpieces hmany]
    rfl

theorem parseBytes?_lineBytes (r : AlertRecord) :
    Json.parseBytes? r.lineBytes.toByteArray = some r.envelope := by
  rw [Json.parseBytes?, AlertRecord.lineBytes, fromUTF8?_utf8, Option.bind_some,
    String.ofList_toList, r.parse?_line]

/-! ## The course of publications -/

section Course

variable (fault : Nat → Option (Nat × String))

/-- What is told of the alerts, and the stream behind them, if they are published to a stream that holds
nothing at first. -/
def Output.course (alerts : List AlertRecord) : List (Except SinkError Unit) × Output :=
  (Sink.lines.publishAll alerts).run (handle fault) ⟨[], 0⟩

/-- The bytes that a stream holds behind alerts that have been published to it. -/
def streamAfter (alerts : List AlertRecord) : List UInt8 := (Output.course fault alerts).2.bytes

theorem run_publishAll_cons (r : AlertRecord) (alerts : List AlertRecord) (out : Output) :
    (Sink.lines.publishAll (r :: alerts)).run (Output.handle fault) out =
      let first := (Sink.lines.publish r).run (Output.handle fault) out
      let more := (Sink.lines.publishAll alerts).run (Output.handle fault) first.2
      (first.1 :: more.1, more.2) := by
  rw [Sink.publishAll, bind_eq, run_bind_state, bind_eq, run_bind_state, run_pure_state]

theorem run_publishAll_snoc (alerts : List AlertRecord) (r : AlertRecord) (out : Output) :
    (Sink.lines.publishAll (alerts ++ [r])).run (Output.handle fault) out =
      let told := (Sink.lines.publishAll alerts).run (Output.handle fault) out
      let last := (Sink.lines.publish r).run (Output.handle fault) told.2
      (told.1 ++ [last.1], last.2) := by
  induction alerts generalizing out with
  | nil => exact run_publishAll_cons fault r [] out
  | cons s rest ih =>
    simp only [List.cons_append, run_publishAll_cons, ih]

theorem course_snoc (alerts : List AlertRecord) (r : AlertRecord) : ∃ piece result,
    (Output.course fault (alerts ++ [r])).1 = (Output.course fault alerts).1 ++ [result] ∧
      streamAfter fault (alerts ++ [r]) = streamAfter fault alerts ++ piece ∧
        (piece = r.lineBytes ++ [lineEnd] ∨ piece <+: r.lineBytes ∧ result ≠ .ok ()) := by
  obtain ⟨piece, result, asked, hrun, hpiece⟩ :=
    publish_piece fault r (Output.course fault alerts).2
  have hcourse : Output.course fault (alerts ++ [r]) =
      ((Output.course fault alerts).1 ++ [result], ⟨streamAfter fault alerts ++ piece, asked⟩) := by
    rw [Output.course, run_publishAll_snoc]
    exact congrArg (fun last => ((Output.course fault alerts).1 ++ [last.1], last.2)) hrun
  exact ⟨piece, result, by rw [hcourse], by rw [streamAfter, hcourse], hpiece⟩

theorem course_length (alerts : List AlertRecord) :
    (Output.course fault alerts).1.length = alerts.length := by
  induction alerts using List.reverseRecOn with
  | nil => rfl
  | append_singleton alerts r ih =>
    obtain ⟨piece, result, htold, -⟩ := course_snoc fault alerts r
    rw [htold, List.length_append, ih, List.length_append, List.length_singleton,
      List.length_singleton]

/-- More alerts leave what has been told and what the stream holds, and add to both. -/
theorem course_append (alerts more : List AlertRecord) :
    (Output.course fault alerts).1 <+: (Output.course fault (alerts ++ more)).1 ∧
      streamAfter fault alerts <+: streamAfter fault (alerts ++ more) := by
  induction more using List.reverseRecOn with
  | nil => simp
  | append_singleton more r ih =>
    obtain ⟨piece, result, htold, hbytes, -⟩ := course_snoc fault (alerts ++ more) r
    rw [← List.append_assoc, htold, hbytes]
    exact ⟨ih.1.trans (List.prefix_append _ _), ih.2.trans (List.prefix_append _ _)⟩

/-- What stands open in a stream has been left by parts of lines. -/
theorem openLine_parts (alerts : List AlertRecord) : ∃ parts : List (List UInt8),
    openLine (streamAfter fault alerts) = parts.flatten ∧ ∀ part ∈ parts, LinePart part := by
  induction alerts using List.reverseRecOn with
  | nil => exact ⟨[], rfl, by simp⟩
  | append_singleton alerts r ih =>
    obtain ⟨piece, result, -, hbytes, hwhole | ⟨hbegins, -⟩⟩ := course_snoc fault alerts r
    · rw [hbytes, hwhole, (lines_append_line _ r.lineEnd_not_mem).2]
      exact ⟨[], rfl, by simp⟩
    · have hend : lineEnd ∉ piece := fun hmem => r.lineEnd_not_mem (hbegins.subset hmem)
      obtain ⟨parts, hopen, hparts⟩ := ih
      rw [hbytes, (lines_append_unbroken _ hend).2, hopen]
      by_cases hne : piece = []
      · exact ⟨parts, by simp [hne], hparts⟩
      · refine ⟨parts ++ [piece], by simp, ?_⟩
        rw [List.forall_mem_append, List.forall_mem_singleton]
        exact ⟨hparts, hne, r, hbegins⟩

/-- A line is read as its alert's envelope if nothing stood open before it, and not at all otherwise. -/
theorem parseBytes?_openLine (alerts : List AlertRecord) (r : AlertRecord) :
    Json.parseBytes? (openLine (streamAfter fault alerts) ++ r.lineBytes).toByteArray =
      if openLine (streamAfter fault alerts) = [] then some r.envelope else none := by
  obtain ⟨parts, hopen, hparts⟩ := openLine_parts fault alerts
  rw [hopen]
  split
  · next hnil => rw [hnil, List.nil_append, parseBytes?_lineBytes]
  · next hne =>
    have hglued : ∀ part ∈ parts ++ [r.lineBytes], LinePart part := by
      rw [List.forall_mem_append, List.forall_mem_singleton]
      exact ⟨hparts, linePart_lineBytes r⟩
    have hmany : 0 < parts.length := by
      refine List.length_pos_iff.2 ?_
      rintro rfl
      exact hne rfl
    have hlength : 1 < (parts ++ [r.lineBytes]).length := by
      rw [List.length_append, List.length_singleton]
      omega
    have hnone := parseBytes?_parts hglued hlength
    rwa [List.flatten_append, List.flatten_singleton] at hnone

/-- `Written fault earlier r`: the line of `r`, published behind `earlier`, is written with its end. -/
def Written (earlier : List AlertRecord) (r : AlertRecord) : Prop :=
  streamAfter fault (earlier ++ [r]) = streamAfter fault earlier ++ (r.lineBytes ++ [lineEnd])

/-- A line that has been written with its end is complete, behind what stood open before it. -/
theorem mem_completeLines {earlier : List AlertRecord} {r : AlertRecord}
    (h : Written fault earlier r) (later : List AlertRecord) :
    openLine (streamAfter fault earlier) ++ r.lineBytes ∈
      completeLines (streamAfter fault (earlier ++ r :: later)) := by
  obtain ⟨rest, hrest⟩ := (course_append fault (earlier ++ [r]) later).2
  rw [List.append_assoc, List.singleton_append] at hrest
  rw [← hrest]
  refine (completeLines_append _ rest).subset ?_
  rw [h, (lines_append_line _ r.lineEnd_not_mem).1]
  simp

/-- A complete line that is read as an alert's envelope has been written for this alert, where nothing
stood open. -/
theorem written_of_read (alerts : List AlertRecord) {r : AlertRecord} {line : List UInt8}
    (hline : line ∈ completeLines (streamAfter fault alerts))
    (hread : Json.parseBytes? line.toByteArray = some r.envelope) :
    ∃ earlier later, alerts = earlier ++ r :: later ∧ Written fault earlier r ∧
      openLine (streamAfter fault earlier) = [] := by
  induction alerts using List.reverseRecOn with
  | nil => cases hline
  | append_singleton alerts s ih =>
    have hbefore : line ∈ completeLines (streamAfter fault alerts) → ∃ earlier later,
        alerts ++ [s] = earlier ++ r :: later ∧ Written fault earlier r ∧
          openLine (streamAfter fault earlier) = [] := by
      intro hline
      obtain ⟨earlier, later, rfl, hwritten⟩ := ih hline
      exact ⟨earlier, later ++ [s], by simp, hwritten⟩
    obtain ⟨piece, result, -, hbytes, hwhole | ⟨hbegins, -⟩⟩ := course_snoc fault alerts s
    · rw [hwhole] at hbytes
      rw [hbytes, (lines_append_line _ s.lineEnd_not_mem).1, List.mem_append,
        List.mem_singleton] at hline
      rcases hline with hline | rfl
      · exact hbefore hline
      · rw [parseBytes?_openLine] at hread
        split at hread
        · next hopen =>
          obtain rfl := AlertRecord.envelope_inj (Option.some.inj hread)
          exact ⟨alerts, [], rfl, hbytes, hopen⟩
        · cases hread
    · have hend : lineEnd ∉ piece := fun hmem => s.lineEnd_not_mem (hbegins.subset hmem)
      rw [hbytes, (lines_append_unbroken _ hend).1] at hline
      exact hbefore hline

theorem written_of_taken {earlier later : List AlertRecord} {r : AlertRecord}
    (h : (Output.course fault (earlier ++ r :: later)).1[earlier.length]? = some (.ok ())) :
    Written fault earlier r := by
  obtain ⟨piece, result, htold, hbytes, hpiece⟩ := course_snoc fault earlier r
  obtain ⟨more, hmore⟩ := (course_append fault (earlier ++ [r]) later).1
  rw [List.append_assoc, List.singleton_append, htold] at hmore
  have hresult : some result = some (.ok ()) := by
    rw [← h, ← hmore, ← course_length fault earlier]
    simp
  rcases hpiece with hwhole | ⟨-, hfailed⟩
  · rw [Written, hbytes, hwhole]
  · exact absurd (Option.some.inj hresult) hfailed

/-- **What can be read of a stream that fails.** Whatever the stream does, it keeps the line of every
alert that is taken, complete but behind what stood open before it. Such a line is read as the envelope
of the alert if nothing stood open, and is no JSON text otherwise; behind it nothing stands open. So an
alert can be read from the stream exactly if its line has been written, with its end, where nothing
stood open. -/
theorem published_line_read_iff (alerts : List AlertRecord) :
    (Output.course fault alerts).1.length = alerts.length ∧
    (∀ earlier r later, alerts = earlier ++ r :: later →
      (Output.course fault alerts).1[earlier.length]? = some (.ok ()) →
        openLine (streamAfter fault earlier) ++ r.lineBytes ∈
          completeLines (streamAfter fault alerts) ∧
        Json.parseBytes? (openLine (streamAfter fault earlier) ++ r.lineBytes).toByteArray =
          (if openLine (streamAfter fault earlier) = [] then some r.envelope else none) ∧
        openLine (streamAfter fault (earlier ++ [r])) = []) ∧
    ∀ r, (∃ line ∈ completeLines (streamAfter fault alerts),
        Json.parseBytes? line.toByteArray = some r.envelope) ↔
      ∃ earlier later, alerts = earlier ++ r :: later ∧ Written fault earlier r ∧
        openLine (streamAfter fault earlier) = [] := by
  refine ⟨course_length fault alerts, ?_, fun r => ⟨?_, ?_⟩⟩
  · rintro earlier r later rfl htaken
    have hwritten := written_of_taken fault htaken
    refine ⟨mem_completeLines fault hwritten later, parseBytes?_openLine fault earlier r, ?_⟩
    rw [hwritten, (lines_append_line _ r.lineEnd_not_mem).2]
  · rintro ⟨line, hline, hread⟩
    exact written_of_read fault alerts hline hread
  · rintro ⟨earlier, later, rfl, hwritten, hopen⟩
    refine ⟨_, mem_completeLines fault hwritten later, ?_⟩
    rw [parseBytes?_openLine, if_pos hopen]

end Course

def supplyMissing : AlertRecord where
  origin := .nodeData
  kind := .missing
  severity := .critical
  alertId := "1555392549deadbeef"
  hostId := "srvnode-1"
  info := ⟨0, 0, 0, 0, "node:fru:psu", "Power Supply #0x61", "1555392549"⟩
  specificInfo := ∅

def supplyBack : AlertRecord := { supplyMissing with
  kind := .insertion
  severity := .informational
  alertId := "1555392550deadbeef" }

/-- A stream that has room for one more byte when the first text is written, and later room again. -/
def fullAtFirst : Nat → Option (Nat × String)
  | 0 => some (1, "No space left on device (os error 28)")
  | _ => none

/-- One byte has been taken of the first line. -/
theorem streamAfter_fullAtFirst : streamAfter fullAtFirst [supplyMissing] = [0x7B] := by
  obtain ⟨tail, hfront⟩ := supplyMissing.lineBytes_front
  rw [streamAfter, Output.course, run_publishAll_cons,
    publish_broken_off fullAtFirst supplyMissing ⟨[], 0⟩ rfl, hfront]
  rfl

/-- The alert behind a line that has been broken off is taken, and no complete line is read as its
envelope. -/
theorem taken_alert_not_read :
    (Output.course fullAtFirst [supplyMissing, supplyBack]).1 =
        [.error (.inputOutput "No space left on device (os error 28)"), .ok ()] ∧
      ¬ ∃ line ∈ completeLines (streamAfter fullAtFirst [supplyMissing, supplyBack]),
        Json.parseBytes? line.toByteArray = some supplyBack.envelope := by
  have hresults : (Output.course fullAtFirst [supplyMissing, supplyBack]).1 =
      [.error (.inputOutput "No space left on device (os error 28)"), .ok ()] := rfl
  refine ⟨hresults, ?_⟩
  rintro ⟨line, hline, hread⟩
  have hwritten : Written fullAtFirst [supplyMissing] supplyBack :=
    written_of_taken fullAtFirst (congrArg (·[1]?) hresults)
  have hbytes : streamAfter fullAtFirst [supplyMissing, supplyBack] = _ := hwritten
  rw [hbytes, (lines_append_line _ supplyBack.lineEnd_not_mem).1, List.mem_append,
    List.mem_singleton] at hline
  rcases hline with hearlier | hlast
  · rw [streamAfter_fullAtFirst] at hearlier
    cases hearlier
  · rw [hlast, parseBytes?_openLine, if_neg (by rw [streamAfter_fullAtFirst]; decide)] at hread
    cases hread

/-- Behind the line that cannot be read, the next one can. -/
theorem next_alert_read :
    ∃ line ∈ completeLines (streamAfter fullAtFirst [supplyMissing, supplyBack, supplyMissing]),
      Json.parseBytes? line.toByteArray = some supplyMissing.envelope := by
  have htaken : (Output.course fullAtFirst [supplyMissing, supplyBack, supplyMissing]).1 =
      [.error (.inputOutput "No space left on device (os error 28)"), .ok (), .ok ()] := rfl
  have hwritten : Written fullAtFirst [supplyMissing, supplyBack] supplyMissing :=
    written_of_taken fullAtFirst (congrArg (·[2]?) htaken)
  have hfirst := (published_line_read_iff fullAtFirst [supplyMissing, supplyBack, supplyMissing]).2
  have hopen := (hfirst.1 [supplyMissing] supplyBack [supplyMissing] rfl (congrArg (·[1]?) htaken)).2.2
  exact (hfirst.2 supplyMissing).2 ⟨_, [], rfl, hwritten, hopen⟩

end HealthAgent
