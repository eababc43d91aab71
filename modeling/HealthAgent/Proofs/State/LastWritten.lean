import HealthAgent.Proofs.Enclosure.Course
import HealthAgent.Proofs.EventLog.Parts
import HealthAgent.Proofs.Program.Exchanges
import HealthAgent.Proofs.Text.Lines
/-!
# The store tells what was written last

To those who use it, the store of the log sensor is a pair: a number, and the lines of a text. Each
of the two is in a file of its own, and each attempt to write may fail and then leaves its file as it
is. So the number is the last one that could be set, and the text the last one that could be written,
whatever else has been done in between. Opening the store writes only where a file shows nothing
already, so it can be done again at any time.

`Disk.Step` says what is assumed of the surroundings: files can be read, a file that has been replaced
holds the new bytes, and all else changes no file.

Results:
* `ensures_openIn_shows`, `ensures_perform`: what one operation does to the pair.
* `ensures_performAll`: what a sequence of operations does to it.
* `ensures_cursor_told`, `ensures_pending_told`: what the store tells of it.
* `LogStore.failsAtOnce_perform`: when an operation fails.
* `store_tells_last_written`: what the store tells after any sequence of operations.
-/
namespace HealthAgent
open Program State

/-! ## A disk on which writing may fail -/

abbrev Disk := String → Option ByteArray

namespace Disk

def content (d : Disk) (path : String) : ReadAnswer :=
  match d path with
  | none => .absent
  | some bytes => .content bytes

def write (d : Disk) (path : String) (bytes : ByteArray) : Disk :=
  fun p => if p = path then some bytes else d p

/-- `d.Step r a d'`: on a disk whose files can be read, a request `r` may be answered by `a`, which
leaves `d'`. -/
def Step (d : Disk) : (r : Request) → r.Answer → Disk → Prop
  | .file (.load path), a, d' => a = d.content path ∧ d' = d
  | .file (.replace path bytes), a, d' => d' = if a = .written then d.write path bytes else d
  | _, _, d' => d' = d

theorem write_self (d : Disk) (path : String) (bytes : ByteArray) :
    d.write path bytes path = some bytes := if_pos rfl

theorem write_of_ne (d : Disk) {path other : String} (bytes : ByteArray) (h : other ≠ path) :
    d.write path bytes other = d other := if_neg h

end Disk

/-- What the files of a store show: a number in the one, and a text in the other. A missing file shows
the number 0, or the empty text. -/
structure LogStore.Shows (st : LogStore) (d : Disk) (index : UInt64) (text : String) : Prop where
  cursor : ∃ told : Option String, d st.cursorPath = told.map String.toUTF8 ∧
    parseCursor (told.getD "") = .ok index
  buffer : ∃ told : Option String, d st.pendingPath = told.map String.toUTF8 ∧ told.getD "" = text

namespace LogStore.Shows

variable {st : LogStore} {d : Disk} {index : UInt64} {text : String}

/-- Without its files, a store shows 0 and the empty text. -/
theorem fresh (hcursor : d st.cursorPath = none) (hpending : d st.pendingPath = none) :
    st.Shows d 0 "" :=
  ⟨⟨none, hcursor, parseCursor_of_blank rfl⟩, ⟨none, hpending, rfl⟩⟩

theorem setCursor (hst : st.Apart) (h : st.Shows d index text) (index' : UInt64) :
    st.Shows (d.write st.cursorPath (cursorText index').toUTF8) index' text where
  cursor := ⟨some (cursorText index'), d.write_self _ _, parseCursor_cursorText index'⟩
  buffer := by
    rw [d.write_of_ne _ (Ne.symm hst)]
    exact h.buffer

theorem replacePending (hst : st.Apart) (h : st.Shows d index text) (text' : String) :
    st.Shows (d.write st.pendingPath text'.toUTF8) index text' where
  cursor := by
    rw [d.write_of_ne _ hst]
    exact h.cursor
  buffer := ⟨some text', d.write_self _ _, rfl⟩

end LogStore.Shows

/-! ## Operations -/

namespace LogStore

/-- What can be done to the store in a folder. -/
inductive Operation where
  /-- The store is opened, for the first time or again. -/
  | openIn
  | setCursor (index : UInt64)
  | replacePending (text : String)
  | clearPending
  deriving DecidableEq, Repr

/-- An operation, as far as it can fail. -/
def Operation.perform (folder : String) : Operation → SensorProgram (Except StoreError Unit)
  | openIn => do return (← LogStore.openIn folder).map fun _ => ()
  | setCursor index => (inFolder folder).setCursor index
  | replacePending text => (inFolder folder).replacePending text
  | clearPending => (inFolder folder).clearPending

/-- An operation with how it has ended. -/
abbrev Performed := Operation × Except StoreError Unit

/-- Performs operations one after the other, whether they fail or not. -/
def performAll (folder : String) : List Operation → SensorProgram (List Performed)
  | [] => .done []
  | op :: rest => do
    let result ← op.perform folder
    return (op, result) :: (← performAll folder rest)

/-- The number that an operation has set, if it has set one. -/
def Performed.index? : Performed → Option UInt64
  | (.setCursor index, .ok ()) => some index
  | _ => none

/-- The text that an operation has written, if it has written one. -/
def Performed.text? : Performed → Option String
  | (.replacePending text, .ok ()) => some text
  | (.clearPending, .ok ()) => some ""
  | _ => none

/-- The number that has been set last; 0 if none has been. -/
def lastIndex (done : List Performed) : UInt64 := (done.filterMap Performed.index?).getLast?.getD 0

/-- The text that has been written last; the empty one if none has been. -/
def lastText (done : List Performed) : String := (done.filterMap Performed.text?).getLast?.getD ""

theorem getLast?_filterMap_cons {α β : Type} (f : α → Option β) (a : α) (as : List α) (b : β) :
    ((a :: as).filterMap f).getLast?.getD b = (as.filterMap f).getLast?.getD ((f a).getD b) := by
  cases hfirst : f a with
  | none => simp [hfirst]
  | some x => simp [hfirst, List.getLast?_cons]

end LogStore

/-! ## What operations do -/

namespace Disk

variable {d : Disk} {path : String}

theorem ensures_readText {told : Option String} (h : d path = told.map String.toUTF8) :
    Ensures Step (fun _ => True) (readText path) d fun r d' => r = .ok told ∧ d' = d := by
  rw [readText_eq]
  apply Ensures.call trivial
  rintro a d' ⟨rfl, rfl⟩
  refine .done trivial ⟨?_, rfl⟩
  cases told with
  | none => simp [content, h, ReadAnswer.text]
  | some text =>
    simp [content, h, ReadAnswer.text, fromUTF8?_toByteArray text]

theorem replaceText_eq (path text : String) : replaceText path text =
    .call (.file (.replace path text.toUTF8)) fun a => .done (a.result path) :=
  congrArg (Program.call _) (funext fun a => by cases a <;> rfl)

/-- A file is replaced, or that fails and the file stays as it is. -/
theorem ensures_replaceText (d : Disk) (path text : String) :
    Ensures Step (fun _ => True) (replaceText path text) d fun r d' =>
      (r = .ok () ∧ d' = d.write path text.toUTF8) ∨ ((∃ e, r = .error e) ∧ d' = d) := by
  rw [replaceText_eq]
  apply Ensures.call trivial
  rintro a d' rfl
  refine .done trivial ?_
  cases a with
  | written => exact .inl ⟨rfl, rfl⟩
  | noFolder => exact .inr ⟨⟨_, rfl⟩, rfl⟩
  | refused => exact .inr ⟨⟨_, rfl⟩, rfl⟩

end Disk

namespace LogStore

section Effects

variable {st : LogStore} {d : Disk} {index : UInt64} {text : String}

theorem ensures_setCursor (hst : st.Apart) (h : st.Shows d index text) (index' : UInt64) :
    Ensures Disk.Step (fun _ => True) (st.setCursor index') d fun r d' =>
      st.Shows d' (if r = .ok () then index' else index) text := by
  refine (d.ensures_replaceText _ _).mono (fun _ _ => trivial) ?_
  rintro r d' - (⟨rfl, rfl⟩ | ⟨⟨e, rfl⟩, rfl⟩)
  · exact h.setCursor hst index'
  · exact h

theorem ensures_replacePending (hst : st.Apart) (h : st.Shows d index text) (text' : String) :
    Ensures Disk.Step (fun _ => True) (st.replacePending text') d fun r d' =>
      st.Shows d' index (if r = .ok () then text' else text) := by
  refine (d.ensures_replaceText _ _).mono (fun _ _ => trivial) ?_
  rintro r d' - (⟨rfl, rfl⟩ | ⟨⟨e, rfl⟩, rfl⟩)
  · exact h.replacePending hst text'
  · exact h

/-- The opening of a store from the reading of the buffer on: a missing buffer is written as the
empty text, which it shows already. -/
theorem ensures_openPending_shows (hst : st.Apart) (h : st.Shows d index text)
    (k : Except StoreError (Option String) → SensorProgram (Except StoreError LogStore))
    (hsome : ∀ told, k (.ok (some told)) = .done (.ok st))
    (hnone : k (.ok none) = st.clearPending.bind fun r => .done (r.map fun _ => st)) :
    Ensures Disk.Step (fun _ => True) ((readText st.pendingPath).bind k) d fun _ d' =>
      st.Shows d' index text := by
  obtain ⟨told, htold, rfl⟩ := h.buffer
  refine (Disk.ensures_readText htold).bind ?_
  rintro _ d' ⟨rfl, rfl⟩
  cases told with
  | some told =>
    rw [hsome]
    exact .done trivial h
  | none =>
    rw [hnone]
    refine (ensures_replacePending hst h "").bind fun r d' h' => .done trivial ?_
    simpa using h'

theorem ensures_openIn_shows (folder : String) (h : (inFolder folder).Shows d index text) :
    Ensures Disk.Step (fun _ => True) (openIn folder) d fun _ d' =>
      (inFolder folder).Shows d' index text := by
  have hst := inFolder_apart folder
  unfold openIn
  generalize inFolder folder = st at h hst ⊢
  apply Ensures.call trivial
  rintro made d' rfl
  cases made with
  | false => exact .done trivial h
  | true =>
    obtain ⟨told, htold, hindex⟩ := h.cursor
    refine (Disk.ensures_readText htold).bind ?_
    rintro _ d' ⟨rfl, rfl⟩
    dsimp only
    split
    · next hblank =>
      -- A blank cursor file shows 0, which is what is written.
      obtain rfl : 0 = index := by
        rw [parseCursor_of_blank hblank] at hindex
        exact Except.ok.inj hindex
      refine (ensures_setCursor hst h 0).bind ?_
      rintro r d'' h''
      rw [ite_self] at h''
      cases r with
      | error e => exact .done trivial h''
      | ok _ => exact ensures_openPending_shows hst h'' _ (fun _ => rfl) rfl
    · exact ensures_openPending_shows hst h _ (fun _ => rfl) rfl

theorem ensures_perform {folder : String} (h : (inFolder folder).Shows d index text)
    (op : Operation) :
    Ensures Disk.Step (fun _ => True) (op.perform folder) d fun r d' =>
      (inFolder folder).Shows d' ((Performed.index? (op, r)).getD index)
        ((Performed.text? (op, r)).getD text) := by
  have hst := inFolder_apart folder
  cases op with
  | openIn =>
    refine (ensures_openIn_shows folder h).bind fun r d' h' => .done trivial ?_
    cases r <;> exact h'
  | setCursor index' =>
    refine (ensures_setCursor hst h index').mono (fun _ _ => trivial) fun r d' _ h' => ?_
    cases r <;> exact h'
  | replacePending text' =>
    refine (ensures_replacePending hst h text').mono (fun _ _ => trivial) fun r d' _ h' => ?_
    cases r <;> exact h'
  | clearPending =>
    refine (ensures_replacePending hst h "").mono (fun _ _ => trivial) fun r d' _ h' => ?_
    cases r <;> exact h'

/-- What a sequence of operations does to what the store shows. -/
theorem ensures_performAll {folder : String} (h : (inFolder folder).Shows d index text)
    (ops : List Operation) :
    Ensures Disk.Step (fun _ => True) (performAll folder ops) d fun done d' =>
      done.map Prod.fst = ops ∧
        (inFolder folder).Shows d' ((done.filterMap Performed.index?).getLast?.getD index)
          ((done.filterMap Performed.text?).getLast?.getD text) := by
  induction ops generalizing d index text with
  | nil => exact .done trivial ⟨rfl, h⟩
  | cons op rest ih =>
    refine (ensures_perform h op).bind fun result d₁ h₁ => ?_
    refine (ih h₁).bind fun done d₂ ⟨hops, h₂⟩ => .done trivial ⟨congrArg (op :: ·) hops, ?_⟩
    rw [getLast?_filterMap_cons, getLast?_filterMap_cons]
    exact h₂

/-! ## What the store tells -/

theorem ensures_cursor_told (h : st.Shows d index text) :
    Ensures Disk.Step (fun _ => True) st.cursor d fun r d' => r = .ok index ∧ d' = d := by
  obtain ⟨told, htold, hindex⟩ := h.cursor
  refine (Disk.ensures_readText htold).bind ?_
  rintro _ d' ⟨rfl, rfl⟩
  dsimp only
  rw [hindex]
  exact .done trivial ⟨rfl, rfl⟩

theorem ensures_pending_told (h : st.Shows d index text) :
    Ensures Disk.Step (fun _ => True) st.pending d fun r d' =>
      r = .ok text.writtenLines ∧ d' = d := by
  obtain ⟨told, htold, rfl⟩ := h.buffer
  refine (Disk.ensures_readText htold).bind ?_
  rintro _ d' ⟨rfl, rfl⟩
  exact .done trivial ⟨rfl, rfl⟩

theorem ensures_hasPending_told (h : st.Shows d index text) :
    Ensures Disk.Step (fun _ => True) st.hasPending d fun r d' =>
      r = .ok (!text.writtenLines.isEmpty) ∧ d' = d := by
  refine (ensures_pending_told h).bind ?_
  rintro _ d' ⟨rfl, rfl⟩
  exact .done trivial ⟨rfl, rfl⟩

end Effects

end LogStore

/-! ## When an operation fails -/

/-- The request has not been met: a folder that could not be made, a file that could not be replaced,
or one that could not be read as a text. -/
def Exchange.Unmet : Exchange Request Request.Answer → Prop
  | ⟨.file (.makeFolder _), made⟩ => made = false
  | ⟨.file (.load _), answer⟩ => ¬answer.Legible
  | ⟨.file (.replace _ _), answer⟩ => answer ≠ .written
  | _ => False

namespace LogStore

def Failed {α : Type} (r : Except StoreError α) : Prop := ∃ e, r = .error e

/-- A program that fails with the first request that is not met. -/
abbrev FailsAtOnce {α : Type} (p : SensorProgram (Except StoreError α)) : Prop :=
  p.StopsAt Exchange.Unmet Failed

theorem not_failed_ok {α : Type} (a : α) : ¬Failed (.ok a : Except StoreError α) := by
  rintro ⟨e, he⟩
  cases he

theorem FailsAtOnce.through {α β : Type} {p : SensorProgram (Except StoreError α)}
    {f : Except StoreError α → SensorProgram (Except StoreError β)} (hp : FailsAtOnce p)
    (herror : ∀ e, f (.error e) = .done (.error e)) (hok : ∀ a, FailsAtOnce (f (.ok a))) :
    FailsAtOnce (p.bind f) := by
  refine hp.bind ?_ fun r hr => ?_
  · rintro _ ⟨e, rfl⟩
    exact ⟨_, herror e, e, rfl⟩
  · cases r with
    | ok a => exact hok a
    | error e => exact absurd ⟨e, rfl⟩ hr

theorem FailsAtOnce.ask {α : Type} {r : Request} {result : r.Answer → Except StoreError α}
    (h : ∀ a, Exchange.Unmet ⟨r, a⟩ ↔ Failed (result a)) :
    FailsAtOnce (.call r fun a => .done (result a)) :=
  fun a => ⟨fun hunmet => ⟨_, rfl, (h a).1 hunmet⟩, fun hmet hfailed => hmet ((h a).2 hfailed)⟩

theorem failsAtOnce_readText (path : String) : FailsAtOnce (readText path) := by
  rw [readText_eq]
  refine .ask fun a => ?_
  cases a with
  | absent => exact iff_of_false (fun h => h trivial) (not_failed_ok none)
  | failed => exact iff_of_true id ⟨_, rfl⟩
  | content bytes =>
    cases hread : String.fromUTF8? bytes <;>
      simp [Exchange.Unmet, ReadAnswer.Legible, ReadAnswer.text, hread, Failed]

theorem failsAtOnce_replaceText (path text : String) : FailsAtOnce (replaceText path text) := by
  rw [Disk.replaceText_eq]
  refine .ask fun a => ?_
  cases a <;> simp [Exchange.Unmet, WriteAnswer.result, Failed]

theorem failsAtOnce_ensureFolder (folder : String) : FailsAtOnce (ensureFolder folder) := by
  intro made
  cases made with
  | true => exact ⟨nofun, fun _ => not_failed_ok ()⟩
  | false => exact ⟨fun _ => ⟨_, rfl, _, rfl⟩, fun h => absurd rfl h⟩

theorem failsAtOnce_openPending (st : LogStore)
    (k : Except StoreError (Option String) → SensorProgram (Except StoreError LogStore))
    (herror : ∀ e, k (.error e) = .done (.error e))
    (hsome : ∀ told, k (.ok (some told)) = .done (.ok st))
    (hnone : k (.ok none) = st.clearPending.bind fun r => .done (r.map fun _ => st)) :
    FailsAtOnce ((readText st.pendingPath).bind k) := by
  refine (failsAtOnce_readText _).through herror fun told => ?_
  cases told with
  | some told =>
    rw [hsome]
    exact not_failed_ok st
  | none =>
    rw [hnone]
    exact (failsAtOnce_replaceText _ _).through (fun _ => rfl) fun _ => not_failed_ok st

theorem failsAtOnce_openIn (folder : String) : FailsAtOnce (openIn folder) := by
  unfold openIn
  generalize inFolder folder = st
  refine (failsAtOnce_ensureFolder folder).bind ?_ fun r hr => ?_
  · rintro _ ⟨e, rfl⟩
    exact ⟨_, rfl, _, rfl⟩
  cases r with
  | error e => exact absurd ⟨e, rfl⟩ hr
  | ok _ =>
    refine (failsAtOnce_readText _).through (fun _ => rfl) fun text => ?_
    dsimp only
    split
    · refine (failsAtOnce_replaceText _ _).through (fun _ => rfl) fun _ => ?_
      exact failsAtOnce_openPending st _ (fun _ => rfl) (fun _ => rfl) rfl
    · exact failsAtOnce_openPending st _ (fun _ => rfl) (fun _ => rfl) rfl

theorem failsAtOnce_perform (folder : String) (op : Operation) :
    FailsAtOnce (op.perform folder) := by
  cases op with
  | openIn => exact (failsAtOnce_openIn folder).through (fun _ => rfl) fun _ => not_failed_ok ()
  | setCursor index => exact failsAtOnce_replaceText _ _
  | replacePending text => exact failsAtOnce_replaceText _ _
  | clearPending => exact failsAtOnce_replaceText _ _

end LogStore

/-- **The store tells what was written last.** On a disk whose files can be read, a folder that holds
neither file gets a store: any operations are performed, one after the other, and any attempt to write
may fail. After them the store tells as cursor the number that was set last, and 0 if none was; as
pending lines those lines of the text written last that are not blank, in order and without their
ends, and none if no text was written or the last one was empty; and whether there are any. Telling
changes nothing. A further operation fails exactly if one of its requests is not met; unless it sets a
number the cursor stays as it is, and unless it writes a text the pending lines do. -/
theorem store_tells_last_written {σ : Type} {handle : (r : Request) → StateM σ r.Answer}
    {disk : σ → Disk} (hdisk : ∀ r t, (disk t).Step r (handle r t).1 (disk (handle r t).2))
    (folder : String) (ops : List LogStore.Operation) (t : σ)
    (hcursor : disk t (LogStore.inFolder folder).cursorPath = none)
    (hpending : disk t (LogStore.inFolder folder).pendingPath = none) :
    let st := LogStore.inFolder folder
    let done := ((LogStore.performAll folder ops).run handle t).1
    let after := ((LogStore.performAll folder ops).run handle t).2
    done.map Prod.fst = ops ∧
    (st.cursor.run handle after).1 = .ok (LogStore.lastIndex done) ∧
    (∃ lines, Text.LinesAre (LogStore.lastText done).toList lines ∧
      let written := (lines.filter (!Text.allBlank ·)).map String.ofList
      (st.pending.run handle after).1 = .ok written ∧
      (st.hasPending.run handle after).1 = .ok (!written.isEmpty)) ∧
    disk (st.cursor.run handle after).2 = disk after ∧
    disk (st.pending.run handle after).2 = disk after ∧
    disk (st.hasPending.run handle after).2 = disk after ∧
    ∀ op : LogStore.Operation,
      let result := ((op.perform folder).run handle after).1
      let later := ((op.perform folder).run handle after).2
      (LogStore.Failed result ↔ ∃ x ∈ (op.perform folder).exchanges handle after, x.Unmet) ∧
      (LogStore.Performed.index? (op, result) = none →
        (st.cursor.run handle later).1 = (st.cursor.run handle after).1) ∧
      (LogStore.Performed.text? (op, result) = none →
        (st.pending.run handle later).1 = (st.pending.run handle after).1) := by
  intro st done after
  obtain ⟨hops, hshows⟩ : done.map Prod.fst = ops ∧
      st.Shows (disk after) (LogStore.lastIndex done) (LogStore.lastText done) :=
    (LogStore.ensures_performAll (.fresh hcursor hpending) ops).run hdisk
  have hcursor := (LogStore.ensures_cursor_told hshows).run hdisk
  have hpending := (LogStore.ensures_pending_told hshows).run hdisk
  have hhas := (LogStore.ensures_hasPending_told hshows).run hdisk
  refine ⟨hops, hcursor.1, ⟨_, Text.linesAre_lines _, hpending.1, hhas.1⟩, hcursor.2, hpending.2,
    hhas.2, fun op => ⟨?_, fun hindex => ?_, fun htext => ?_⟩⟩
  · exact (LogStore.failsAtOnce_perform folder op).fatal_iff handle after
  · have hlater := (LogStore.ensures_perform hshows op).run hdisk
    rw [hindex] at hlater
    exact ((LogStore.ensures_cursor_told hlater).run hdisk).1.trans hcursor.1.symm
  · have hlater := (LogStore.ensures_perform hshows op).run hdisk
    rw [htext] at hlater
    exact ((LogStore.ensures_pending_told hlater).run hdisk).1.trans hpending.1.symm

/-- On the site of an enclosure's sensor, whatever the weather, files are those of a disk. -/
theorem Weather.disk_step (w : Weather) (given : Except SourceError (List Json)) (r : Request)
    (t : Site × Nat) :
    Disk.Step t.1.files r (w.answer given r t).1 (w.answer given r t).2.1.files := by
  cases r with
  | file r =>
    cases r with
    | makeFolder path => rfl
    | load path => exact ⟨rfl, rfl⟩
    | replace path bytes => exact apply_ite Site.files (w.replaced t.2 = .written) _ _
  | _ => rfl

namespace StoreTrial

/-- The attempts to replace a file with the numbers 7 and 11 fail, the others succeed. -/
def gusts : Weather :=
  { FruTrial.luck with replaced := fun n => if n = 7 ∨ n = 11 then .refused else .written }

/-- Two attempts of these fail: to set 255, and to empty the buffer at the end. -/
def operations : List LogStore.Operation :=
  [.openIn, .setCursor 26, .replacePending "a\n \r\nb\r\nc", .setCursor 255, .openIn, .clearPending]

/-- What has been done on a site without files, and the site after it. -/
def run : List LogStore.Performed × Site × Nat :=
  (LogStore.performAll "state" operations).run (gusts.answer (.ok [])) (⟨fun _ => none, []⟩, 0)

end StoreTrial

open StoreTrial in
/-- The number 26 and three lines are told, whatever has failed since they were written. -/
theorem store_tells_last_written_gusts :
    let st := LogStore.inFolder "state"
    (st.cursor.run (gusts.answer (.ok [])) run.2).1 = .ok 26 ∧
      (st.pending.run (gusts.answer (.ok [])) run.2).1 = .ok ["a", "b", "c"] ∧
      (st.hasPending.run (gusts.answer (.ok [])) run.2).1 = .ok true := by
  intro st
  obtain ⟨-, hcursor, ⟨lines, hlines, hpending, hhas⟩, -⟩ := store_tells_last_written
    (gusts.disk_step (.ok [])) "state" operations (⟨fun _ => none, []⟩, 0) rfl rfl
  obtain rfl := Text.linesAre_iff.1 hlines
  have hindex : LogStore.lastIndex run.1 = 26 := by decide +kernel
  have hwritten : (LogStore.lastText run.1).writtenLines = ["a", "b", "c"] := by decide +kernel
  refine ⟨hcursor.trans (congrArg _ hindex), hpending.trans (congrArg _ hwritten), ?_⟩
  exact hhas.trans (congrArg (fun ls : List String => Except.ok (!ls.isEmpty)) hwritten)

end HealthAgent
