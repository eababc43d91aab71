import HealthAgent.Proofs.EventLog.Surroundings
import HealthAgent.Proofs.Number.Hex
import HealthAgent.Proofs.Text.Words
import Mathlib.Data.List.TakeWhile
/-!
# The two state files as a number and lines

Seen from the world, the store of the log sensor is a number, `World.cursor`, and a list of lines,
`World.buffer`. Each operation of the store changes at most one of the two, and only if it succeeds.
The effects of a stretch of acts have names here, so that nobody has to look at a request again:

* `Passes`: neither file changes; the given alerts are handed over.
* `Saves`: the cursor file gets a number.
* `Stores`: the buffer file gets lines.
* `Lists`, `Refuses`, `Clears`: the log is listed, asked to be cleared, cleared.

Results:
* `parseCursor_cursorText`: a written cursor is read back, for every number.
* `parseCursor_of_blank`: a blank cursor file reads as 0.
* `inFolder_apart`: the two files of a store are two files.
* `Rules.Step.passes`, `Rules.Step.saves`, `Rules.Step.stores`, `Rules.Step.lists`,
  `Rules.Step.clears`: the effects of one act.
* `Since.trans`: what two stretches of acts tell together.
-/
namespace HealthAgent
open Program Number Text

/-! ## Texts of the files -/

theorem mem_of_mem_splitOn {sep c : Char} {cs part : List Char} (h : part ∈ cs.splitOn sep)
    (hc : c ∈ part) : c ∈ cs := by
  rw [List.splitOn_eq_splitOnP] at h
  exact (of_mem_splitOnP h hc).1

theorem mem_of_mem_lines {c : Char} {cs line : List Char} (h : line ∈ lines cs) (hc : c ∈ line) :
    c ∈ cs := by
  simp only [lines] at h
  rcases List.mem_append.1 h with hmem | hmem
  · obtain ⟨part, hpart, rfl⟩ := List.mem_map.1 hmem
    refine mem_of_mem_splitOn (List.dropLast_subset _ hpart) ?_
    unfold dropReturn at hc
    split at hc
    · exact List.dropLast_subset _ hc
    · exact hc
  · split at hmem
    · cases hmem
    · have hne := List.splitOn_ne_nil '\n' cs
      rw [List.mem_singleton, List.getLastD_eq_getLast?, List.getLast?_eq_some_getLast hne] at hmem
      rw [hmem] at hc
      exact mem_of_mem_splitOn (List.getLast_mem hne) hc

theorem trim_of_blank {cs : List Char} (h : ∀ c ∈ cs, isBlank c = true) : trim cs = [] := by
  have hstart : cs.dropWhile isBlank = [] := List.dropWhile_eq_nil_iff.2 h
  simp [trim, trimStart, trimEnd, hstart]

namespace LogStore

theorem parseCursor_of_blank {text : String} (h : text.isAllBlank = true) :
    parseCursor text = .ok 0 := by
  have hall : ∀ c ∈ text.toList, isBlank c = true := List.all_eq_true.1 h
  have hline : (text.textLines.headD "").trimBlank = "" := by
    unfold String.textLines String.trimBlank
    cases hlines : lines text.toList with
    | nil => rfl
    | cons line rest =>
      have hblank : ∀ c ∈ line, isBlank c = true := by
        intro c hc
        exact hall c (mem_of_mem_lines (hlines ▸ List.mem_cons_self) hc)
      simp [trim_of_blank hblank]
  unfold parseCursor
  rw [hline]
  rfl

theorem parseCursor_cursorText (index : UInt64) : parseCursor (cursorText index) = .ok index := by
  have hlt := index.toNat_lt
  have hdigit := isDigit_of_mem_toDigits index.toNat hlt
  have hblank : ∀ c ∈ Nat.toDigits 16 index.toNat, isBlank c = false :=
    fun c hc => isBlank_of_digit c (hdigit c hc)
  have hnewline : '\n' ∉ Nat.toDigits 16 index.toNat := by
    intro hc; have := hblank _ hc; revert this; decide
  have hreturn : dropReturn (Nat.toDigits 16 index.toNat) = Nat.toDigits 16 index.toNat := by
    unfold dropReturn
    rw [if_neg]
    intro hlast
    have := hblank _ (List.mem_of_getLast? hlast)
    revert this; decide
  have htrim : trim (Nat.toDigits 16 index.toNat) = Nat.toDigits 16 index.toNat :=
    trim_eq_self _ (fun c hc => hblank c (List.mem_of_head? hc))
      (fun c hc => hblank c (List.mem_of_getLast? hc))
  have hline : (cursorText index).textLines = [String.ofList (Nat.toDigits 16 index.toNat)] := by
    simp [String.textLines, cursorText, hex, lines_feed hnewline, lines_nil, hreturn]
  simp [parseCursor, hline, String.trimBlank, htrim, read_toDigits _ hlt,
    String.isEmpty_iff, Nat.toDigits_ne_nil]

def Apart (st : LogStore) : Prop := st.cursorPath ≠ st.pendingPath

theorem inFolder_apart (folder : String) : (inFolder folder).Apart := by
  intro h
  have hlen := congrArg String.length h
  have hcursor : cursorName.startsWith "/" = false := by decide +kernel
  have hpending : pendingName.startsWith "/" = false := by decide +kernel
  simp only [inFolder, State.joinPath, hcursor, hpending, Bool.false_or] at hlen
  have hne : cursorName.length ≠ pendingName.length := by decide
  split at hlen
  · exact hne hlen
  split at hlen
  · simp only [String.length_append] at hlen; omega
  · simp only [String.length_append] at hlen; omega

end LogStore

/-! ## Effects -/

namespace Event

theorem quiet_spec {st : LogStore} {ev : Event} (h : ev.quiet st = true) :
    ev.clears = false ∧ ev.writes st.cursorPath = false ∧ ev.handled? = none ∧ ev.planned = [] := by
  obtain ⟨a, r⟩ := ev
  cases a with
  | ask q =>
    simp only [quiet, Bool.and_eq_true, Bool.not_eq_true'] at h
    exact ⟨h.1, h.2, rfl, rfl⟩
  | plan es p => cases h
  | handled u => cases h

theorem clears_eq_false {ev : Event} (h : ev.asksClear = false) : ev.clears = false := by
  unfold clears
  split
  · cases h
  · rfl

theorem idle_spec {st : LogStore} {ev : Event} (h : ev.idle st = true) :
    ev.quiet st = true ∧ ev.asksClear = false ∧ ev.lists = false := by
  simpa [idle, and_assoc] using h

end Event

namespace World

/-- Neither file changes and the log as a whole is not dealt with; these alerts are handed over. -/
def Passes (st : LogStore) (alerts : List AlertRecord) (w v : World) : Prop :=
  ∃ evs, (∀ ev ∈ evs, ev.idle st = true) ∧ delivered evs = alerts ∧
    w.Moves st (w.cursor st) (w.buffer st) evs v

/-- The cursor file gets a number. -/
def Saves (st : LogStore) (c : UInt64) (w v : World) : Prop :=
  ∃ bytes, w.Moves st c (w.buffer st) [⟨.ask (.file (.replace st.cursorPath bytes)), .written⟩] v

/-- The buffer file gets lines. -/
def Stores (st : LogStore) (b : List String) (w v : World) : Prop :=
  ∃ bytes, w.Moves st (w.cursor st) b [⟨.ask (.file (.replace st.pendingPath bytes)), .written⟩] v

def Lists (st : LogStore) (lines : List String) (w v : World) : Prop :=
  LogEntry.parseLines lines = v.entries ∧
    ∃ text, w.Moves st (w.cursor st) (w.buffer st) [⟨.ask (.ipmi .logList), .ok text⟩] v

/-- The log is to be cleared, but is not. -/
def Refuses (st : LogStore) (w v : World) : Prop :=
  ∃ e, w.Moves st (w.cursor st) (w.buffer st) [⟨.ask (.ipmi .logClear), .error e⟩] v

structure Clears (st : LogStore) (w v : World) : Prop where
  entries : v.entries = []
  cursor : v.cursor st = w.cursor st
  buffer : v.buffer st = w.buffer st
  history : ∃ text, v.history = w.history ++ [⟨.ask (.ipmi .logClear), .ok text⟩]

theorem Passes.extends {st : LogStore} {as : List AlertRecord} {w v : World}
    (h : w.Passes st as v) : w.Extends v := by
  obtain ⟨evs, -, -, hm⟩ := h
  exact hm.toExtends

theorem Passes.buffer {st : LogStore} {as : List AlertRecord} {w v : World}
    (h : w.Passes st as v) : v.buffer st = w.buffer st := by
  obtain ⟨evs, -, -, hm⟩ := h
  exact hm.buffer

theorem Passes.cursor {st : LogStore} {as : List AlertRecord} {w v : World}
    (h : w.Passes st as v) : v.cursor st = w.cursor st := by
  obtain ⟨evs, -, -, hm⟩ := h
  exact hm.cursor

theorem Saves.extends {st : LogStore} {c : UInt64} {w v : World} (h : w.Saves st c v) :
    w.Extends v := by
  obtain ⟨bytes, hm⟩ := h
  exact hm.toExtends

theorem Stores.extends {st : LogStore} {b : List String} {w v : World} (h : w.Stores st b v) :
    w.Extends v := by
  obtain ⟨bytes, hm⟩ := h
  exact hm.toExtends

theorem Lists.extends {st : LogStore} {lines : List String} {w v : World} (h : w.Lists st lines v) :
    w.Extends v := by
  obtain ⟨-, text, hm⟩ := h
  exact hm.toExtends

theorem Passes.refl (st : LogStore) (w : World) : w.Passes st [] w :=
  ⟨[], by simp, rfl, .refl st w⟩

theorem Passes.trans {st : LogStore} {as bs : List AlertRecord} {u v w : World}
    (h : u.Passes st as v) (h' : v.Passes st bs w) : u.Passes st (as ++ bs) w := by
  obtain ⟨evs, hq, rfl, hm⟩ := h
  obtain ⟨evs', hq', rfl, hm'⟩ := h'
  refine ⟨evs ++ evs', ?_, delivered_append evs evs', ?_⟩
  · intro ev hev
    rcases List.mem_append.1 hev with hmem | hmem
    · exact hq ev hmem
    · exact hq' ev hmem
  · rw [hm.cursor, hm.buffer] at hm'
    exact hm.trans hm'

end World

namespace Rules.Step
open World

variable {ρ : Rules} {w v : World}

theorem passes (hρ : ρ.Orderly) {r : Request} {a : r.Answer} (h : ρ.Step w (.ask r) a v)
    (st : LogStore) (hidle : (Event.mk (.ask r) a).idle st = true)
    (hpending : (Event.mk (.ask r) a).writes st.pendingPath = false) :
    w.Passes st (delivered [⟨.ask r, a⟩]) v := by
  obtain ⟨hclear, hcursor, -, -⟩ := Event.quiet_spec (Event.idle_spec hidle).1
  exact ⟨[⟨.ask r, a⟩], by simpa using hidle, rfl, h.moves hρ st hclear hcursor hpending⟩

theorem saves (hρ : ρ.Orderly) {st : LogStore} (hst : st.Apart) {c : UInt64}
    (h : ρ.Step w (.ask (.file (.replace st.cursorPath (LogStore.cursorText c).toUTF8))) .written v) :
    w.Saves st c v := by
  obtain ⟨u, hdrift, -, -, rfl⟩ := h
  have hg := (hρ w u hdrift).moves st
  refine ⟨(LogStore.cursorText c).toUTF8, hg.toExtends.trans (after_extends _ _ _ rfl), ?_, ?_, ?_⟩
  · simp [cursor, after, filesAfter, fromUTF8?_toByteArray, LogStore.parseCursor_cursorText,
      Except.toOption]
  · rw [← hg.buffer]
    simp only [buffer]
    rw [files_after]
    exact decide_eq_false hst
  · simp [after, hg.history]

theorem stores (hρ : ρ.Orderly) {st : LogStore} (hst : st.Apart) {text : String}
    (h : ρ.Step w (.ask (.file (.replace st.pendingPath text.toUTF8))) .written v) :
    w.Stores st text.writtenLines v := by
  obtain ⟨u, hdrift, -, -, rfl⟩ := h
  have hg := (hρ w u hdrift).moves st
  refine ⟨text.toUTF8, hg.toExtends.trans (after_extends _ _ _ rfl), ?_, ?_, ?_⟩
  · rw [← hg.cursor]
    simp only [cursor]
    rw [files_after]
    exact decide_eq_false (Ne.symm hst)
  · simp [buffer, after, filesAfter, fromUTF8?_toByteArray]
  · simp [after, hg.history]

theorem lists (hρ : ρ.Orderly) (st : LogStore) {text : String}
    (h : ρ.Step w (.ask (.ipmi .logList)) (.ok text) v) : w.Lists st text.writtenLines v := by
  have hm := h.moves hρ st rfl rfl rfl
  obtain ⟨u, -, hlog, -, rfl⟩ := h
  refine ⟨?_, text, hm⟩
  rw [after_entries _ _ _ rfl, hlog text rfl, entries]

theorem clears (hρ : ρ.Orderly) (st : LogStore) {text : String}
    (h : ρ.Step w (.ask (.ipmi .logClear)) (.ok text) v) :
    ∃ u, w.Passes st [] u ∧ ρ.admits u (.ask (.ipmi .logClear)) (.ok text) ∧ u.Clears st v := by
  obtain ⟨u, hdrift, -, hadmits, rfl⟩ := h
  refine ⟨u, ⟨[], by simp, rfl, (hρ w u hdrift).moves st⟩, hadmits,
    after_entries_of_clears _ _ _ rfl, ?_, ?_, text, rfl⟩
  · simp only [cursor]
    rw [files_after _ _ _ _ rfl]
  · simp only [buffer]
    rw [files_after _ _ _ _ rfl]

end Rules.Step

/-! ## What has happened since -/

namespace World

/-- What has happened since a world, the clearing of the log not being requested: whether the log has
been listed, the entries that plans were made for, the handled entries and the alerts. -/
def Since (w₀ : World) (listed : Bool) (ps hs : List LogEntry) (as : List AlertRecord) (w : World) :
    Prop :=
  ∃ evs, w.history = w₀.history ++ evs ∧ (∀ ev ∈ evs, ev.asksClear = false) ∧
    evs.any Event.lists = listed ∧ planned evs = ps ∧ handled evs = hs ∧ delivered evs = as

namespace Since

variable {st : LogStore} {w₀ w v : World} {l : Bool} {ps hs : List LogEntry} {as : List AlertRecord}

theorem refl (w : World) : w.Since false [] [] [] w :=
  ⟨[], by simp, by simp, rfl, rfl, rfl, rfl⟩

theorem trans {l' : Bool} {ps' hs' : List LogEntry} {as' : List AlertRecord}
    (h : w₀.Since l ps hs as w) (h' : w.Since l' ps' hs' as' v) :
    w₀.Since (l || l') (ps ++ ps') (hs ++ hs') (as ++ as') v := by
  obtain ⟨evs, hh, hask, rfl, rfl, rfl, rfl⟩ := h
  obtain ⟨evs', hh', hask', rfl, rfl, rfl, rfl⟩ := h'
  refine ⟨evs ++ evs', ?_, ?_, List.any_append, planned_append _ _, handled_append _ _,
    delivered_append _ _⟩
  · rw [hh', hh, List.append_assoc]
  · intro ev hev
    rcases List.mem_append.1 hev with hmem | hmem
    · exact hask ev hmem
    · exact hask' ev hmem

theorem passes {alerts : List AlertRecord} (h : w₀.Since l ps hs as w)
    (hp : w.Passes st alerts v) : w₀.Since l ps hs (as ++ alerts) v := by
  obtain ⟨evs, hidle, rfl, hm⟩ := hp
  have hspec := fun ev hev => Event.idle_spec (hidle ev hev)
  have hquiet := fun ev hev => Event.quiet_spec (hspec ev hev).1
  have hnew : w.Since false [] [] (delivered evs) v := by
    refine ⟨evs, hm.history, fun ev hev => (hspec ev hev).2.1, ?_, ?_, ?_, rfl⟩
    · exact List.any_eq_false.2 fun ev hev => by simp [(hspec ev hev).2.2]
    · exact List.flatMap_eq_nil_iff.2 fun ev hev => (hquiet ev hev).2.2.2
    · exact List.filterMap_eq_nil_iff.2 fun ev hev => (hquiet ev hev).2.2.1
  simpa using h.trans hnew

theorem saves {c : UInt64} (h : w₀.Since l ps hs as w) (hs' : w.Saves st c v) :
    w₀.Since l ps hs as v := by
  obtain ⟨bytes, hm⟩ := hs'
  have hnew : w.Since false [] [] [] v :=
    ⟨_, hm.history, by simp [Event.asksClear], rfl, rfl, rfl, rfl⟩
  simpa using h.trans hnew

theorem stores {b : List String} (h : w₀.Since l ps hs as w) (hs' : w.Stores st b v) :
    w₀.Since l ps hs as v := by
  obtain ⟨bytes, hm⟩ := hs'
  have hnew : w.Since false [] [] [] v :=
    ⟨_, hm.history, by simp [Event.asksClear], rfl, rfl, rfl, rfl⟩
  simpa using h.trans hnew

theorem lists {lines : List String} (h : w₀.Since l ps hs as w) (hl : w.Lists st lines v) :
    w₀.Since true ps hs as v := by
  obtain ⟨-, text, hm⟩ := hl
  have hnew : w.Since true [] [] [] v :=
    ⟨_, hm.history, by simp [Event.asksClear], rfl, rfl, rfl, rfl⟩
  simpa using h.trans hnew

theorem plans {b : List String} {c : UInt64} {es : List LogEntry} {p : TailPlan}
    (h : w₀.Since l ps hs as w) (hm : w.Moves st c b [⟨.plan es p, ()⟩] v) :
    w₀.Since l (ps ++ es) hs as v := by
  have hnew : w.Since false es [] [] v :=
    ⟨_, hm.history, by simp [Event.asksClear], rfl, by simp [planned, Event.planned], rfl, rfl⟩
  simpa using h.trans hnew

theorem handles {b : List String} {c : UInt64} {u : TailPlan.Unseen} (h : w₀.Since l ps hs as w)
    (hm : w.Moves st c b [⟨.handled u, ()⟩] v) : w₀.Since l ps (hs ++ [u.entry]) as v := by
  have hnew : w.Since false [] [u.entry] [] v :=
    ⟨_, hm.history, by simp [Event.asksClear], rfl, rfl, rfl, rfl⟩
  simpa using h.trans hnew

end Since
end World
end HealthAgent
