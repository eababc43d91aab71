import HealthAgent.EventLog.Sensor
import HealthAgent.Proofs.EventLog.Order
import HealthAgent.Proofs.Program.Runs
/-!
# The surroundings of the log sensor

The sensor lives beside a disk, the log of the management controller and its own past. `World` holds
the three: the files by path, the log as the controller would list it, and the history, every act so
far with its answer. `Act` adds two acts to the requests that a sensor makes, which ask for nothing:
a plan is made, an entry has been handled. They are the moments between which a crash can fall.

`World.allows` says which answers a world can give. Reading a file fails or tells its content, a
replaced file holds the new bytes or, if that failed, the old ones, the log is listed as it is, and a
cleared log is empty. All else is open, every failure included. `Rules` narrow this down to the runs
that a statement is about, and let the log grow on its own before any act.

Results:
* `sinceClear_append`, `sinceClear_of_clears`: the events since the log was last cleared.
* `Moves.trans`: what two stretches of acts do together.
* `Rules.Step.moves`: what an act does that neither replaces a state file nor clears the log.
* `Rules.Still.runs_only`: what is known of the events of a run are rules that it obeys.
-/
namespace HealthAgent

/-! ## Acts and events -/

/-- What the log sensor does: its requests, and two moments of a cycle that request nothing. -/
inductive Act where
  | ask (r : Request)
  /-- A plan is made for a listing of these entries. -/
  | plan (entries : List LogEntry) (plan : TailPlan)
  /-- An entry has been handled. -/
  | handled (u : TailPlan.Unseen)

@[reducible] def Act.Answer : Act → Type
  | ask r => r.Answer
  | plan _ _ => Unit
  | handled _ => Unit

/-- An act with its answer. -/
structure Event where
  act : Act
  answer : act.Answer

namespace Event

def handled? : Event → Option LogEntry
  | ⟨.handled u, _⟩ => some u.entry
  | _ => none

def delivered? : Event → Option AlertRecord
  | ⟨.ask (.deliver alert), _⟩ => some alert
  | _ => none

/-- The entries that a plan is made for. -/
def planned : Event → List LogEntry
  | ⟨.plan entries _, _⟩ => entries
  | _ => []

def clears : Event → Bool
  | ⟨.ask (.ipmi .logClear), .ok _⟩ => true
  | _ => false

def lists : Event → Bool
  | ⟨.ask (.ipmi .logList), .ok _⟩ => true
  | _ => false

def writes (path : String) : Event → Bool
  | ⟨.ask (.file (.replace p _)), .written⟩ => p = path
  | _ => false

def asksClear : Event → Bool
  | ⟨.ask (.ipmi .logClear), _⟩ => true
  | _ => false

/-- Whether the event is a request that neither clears the log nor writes the cursor. -/
def quiet (st : LogStore) : Event → Bool
  | ⟨.ask r, a⟩ => !clears ⟨.ask r, a⟩ && !writes st.cursorPath ⟨.ask r, a⟩
  | _ => false

/-- Whether the event is a quiet request that does not deal with the log as a whole. -/
def idle (st : LogStore) (ev : Event) : Bool := ev.quiet st && !ev.asksClear && !ev.lists

end Event

def handled (h : List Event) : List LogEntry := h.filterMap Event.handled?

/-- The alerts handed to the receivers, in order. -/
def delivered (h : List Event) : List AlertRecord := h.filterMap Event.delivered?

/-- The entries of the listings that plans were made for. -/
def planned (h : List Event) : List LogEntry := h.flatMap Event.planned

/-- The events since the log was last cleared. -/
def sinceClear (h : List Event) : List Event := (h.reverse.takeWhile (!·.clears)).reverse

/-- Whether the cursor has been written since the log was last cleared. -/
def ResetSaved (st : LogStore) (h : List Event) : Prop :=
  (∃ ev ∈ h, ev.clears = true) → ∃ ev ∈ sinceClear h, ev.writes st.cursorPath = true

@[simp] theorem handled_append (h evs : List Event) :
    handled (h ++ evs) = handled h ++ handled evs := List.filterMap_append

@[simp] theorem delivered_append (h evs : List Event) :
    delivered (h ++ evs) = delivered h ++ delivered evs := List.filterMap_append

@[simp] theorem planned_append (h evs : List Event) :
    planned (h ++ evs) = planned h ++ planned evs := List.flatMap_append

theorem sinceClear_append (h evs : List Event) (hc : ∀ ev ∈ evs, ev.clears = false) :
    sinceClear (h ++ evs) = sinceClear h ++ evs := by
  unfold sinceClear
  rw [List.reverse_append, List.takeWhile_append_of_pos (by simpa using hc), List.reverse_append,
    List.reverse_reverse]

theorem sinceClear_of_clears (h : List Event) (ev : Event) (hc : ev.clears = true) :
    sinceClear (h ++ [ev]) = [] := by
  simp [sinceClear, hc]

theorem sinceClear_suffix (h : List Event) : sinceClear h <:+ h := by
  have hpre : h.reverse.takeWhile (!·.clears) <+: h.reverse := List.takeWhile_prefix _
  simpa [sinceClear] using hpre.reverse

theorem handled_sinceClear_subset (h : List Event) : handled (sinceClear h) ⊆ handled h := by
  obtain ⟨before, hb⟩ := sinceClear_suffix h
  intro e he
  rw [← hb, handled_append]
  exact List.mem_append_right _ he

theorem ResetSaved.of_append {st : LogStore} {h evs : List Event} (hs : ResetSaved st (h ++ evs))
    (hc : ∀ ev ∈ evs, ev.clears = false) (hw : ∀ ev ∈ evs, ev.writes st.cursorPath = false) :
    ResetSaved st h := by
  rintro ⟨ev, hev, hclear⟩
  obtain ⟨ev', hev', hwrite⟩ := hs ⟨ev, List.mem_append_left _ hev, hclear⟩
  rw [sinceClear_append h evs hc] at hev'
  rcases List.mem_append.1 hev' with hmem | hmem
  · exact ⟨ev', hmem, hwrite⟩
  · rw [hw ev' hmem] at hwrite; cases hwrite

theorem ResetSaved.append {st : LogStore} {h evs : List Event} (hs : ResetSaved st h)
    (hc : ∀ ev ∈ evs, ev.clears = false) : ResetSaved st (h ++ evs) := by
  intro ⟨ev, hev, hclear⟩
  rw [sinceClear_append h evs hc]
  rcases List.mem_append.1 hev with hmem | hmem
  · obtain ⟨ev', hev', hwrite⟩ := hs ⟨ev, hmem, hclear⟩
    exact ⟨ev', List.mem_append_left _ hev', hwrite⟩
  · rw [hc ev hmem] at hclear
    cases hclear

theorem not_resetSaved_of_clears {st : LogStore} {h : List Event} {ev : Event}
    (hc : ev.clears = true) : ¬ ResetSaved st (h ++ [ev]) := by
  intro hs
  obtain ⟨ev', hev', -⟩ := hs ⟨ev, by simp, hc⟩
  rw [sinceClear_of_clears h ev hc] at hev'
  cases hev'

/-! ## The world -/

/-- The disk, the log and the past. -/
structure World where
  files : String → Option ByteArray
  /-- The log as the controller lists it. -/
  log : String
  history : List Event

namespace World

/-- What a successful reading of a file tells. -/
def content (w : World) (path : String) : ReadAnswer :=
  match w.files path with
  | some bytes => .content bytes
  | none => .absent

def entries (w : World) : List LogEntry := LogEntry.parseLines w.log.writtenLines

/-- What the cursor file tells a sensor that starts. -/
def cursor (w : World) (st : LogStore) : UInt64 :=
  match (w.files st.cursorPath).bind String.fromUTF8? with
  | some text => (LogStore.parseCursor text).toOption.getD 0
  | none => 0

def buffer (w : World) (st : LogStore) : List String :=
  match (w.files st.pendingPath).bind String.fromUTF8? with
  | some text => text.writtenLines
  | none => []

/-- The answers that a world can give. -/
def allows (w : World) : (a : Act) → a.Answer → Prop
  | .ask (.file (.load path)), r => r = .failed ∨ r = w.content path
  | .ask (.ipmi .logList), r => ∀ text, r = .ok text → text = w.log
  | _, _ => True

def filesAfter (w : World) : (a : Act) → a.Answer → String → Option ByteArray
  | .ask (.file (.replace path bytes)), .written => fun p => if p = path then some bytes else w.files p
  | _, _ => w.files

def after (w : World) (a : Act) (r : a.Answer) : World where
  files := w.filesAfter a r
  log := if (Event.mk a r).clears then "" else w.log
  history := w.history ++ [⟨a, r⟩]

/-- The log has got more entries, and is in order if it was. -/
structure Extends (w v : World) : Prop where
  entries : w.entries <+: v.entries
  increasing : Increasing w.entries → Increasing v.entries

/-- The log has got more entries, and nothing else has happened. -/
structure Grows (w v : World) : Prop extends Extends w v where
  files : v.files = w.files
  history : v.history = w.history

/-- What a stretch of acts that does not clear the log does: the cursor file ends up with `c`, the
buffer file with the lines `b`, and the events `evs` have happened. -/
structure Moves (st : LogStore) (c : UInt64) (b : List String) (evs : List Event) (w v : World) :
    Prop extends Extends w v where
  cursor : v.cursor st = c
  buffer : v.buffer st = b
  history : v.history = w.history ++ evs

theorem Extends.refl (w : World) : w.Extends w := ⟨List.prefix_refl _, id⟩

theorem Extends.trans {u v w : World} (h : u.Extends v) (h' : v.Extends w) : u.Extends w where
  entries := h.entries.trans h'.entries
  increasing hi := h'.increasing (h.increasing hi)

theorem Grows.refl (w : World) : w.Grows w := ⟨.refl w, rfl, rfl⟩

theorem Grows.moves {w v : World} (h : w.Grows v) (st : LogStore) :
    w.Moves st (w.cursor st) (w.buffer st) [] v where
  toExtends := h.toExtends
  cursor := by simp only [World.cursor, h.files]
  buffer := by simp only [World.buffer, h.files]
  history := by simp [h.history]

theorem Moves.trans {st : LogStore} {c c' : UInt64} {b b' : List String} {evs evs' : List Event}
    {u v w : World} (h : u.Moves st c b evs v) (h' : v.Moves st c' b' evs' w) :
    u.Moves st c' b' (evs ++ evs') w where
  toExtends := h.toExtends.trans h'.toExtends
  cursor := h'.cursor
  buffer := h'.buffer
  history := by rw [h'.history, h.history, List.append_assoc]

theorem Moves.refl (st : LogStore) (w : World) : w.Moves st (w.cursor st) (w.buffer st) [] w :=
  (Grows.refl w).moves st

theorem after_entries (w : World) (a : Act) (r : a.Answer) (h : (Event.mk a r).clears = false) :
    (w.after a r).entries = w.entries := by
  simp [entries, after, h]

theorem after_extends (w : World) (a : Act) (r : a.Answer) (h : (Event.mk a r).clears = false) :
    w.Extends (w.after a r) := by
  have heq := after_entries w a r h
  exact ⟨heq ▸ List.prefix_refl _, fun hinc => heq ▸ hinc⟩

theorem after_entries_of_clears (w : World) (a : Act) (r : a.Answer)
    (h : (Event.mk a r).clears = true) : (w.after a r).entries = [] := by
  simp only [entries, after, h, if_true]
  rfl

theorem files_after (w : World) (a : Act) (r : a.Answer) (path : String)
    (h : (Event.mk a r).writes path = false) : (w.after a r).files path = w.files path := by
  simp only [after]
  unfold filesAfter
  split
  · rename_i p bytes
    have hne : path ≠ p := fun heq => by simp [Event.writes, heq] at h
    rw [if_neg hne]
  · rfl

/-- An act that neither clears the log nor replaces a state file leaves all three alone. -/
theorem after_moves (w : World) (a : Act) (r : a.Answer) (st : LogStore)
    (hclear : (Event.mk a r).clears = false)
    (hcursor : (Event.mk a r).writes st.cursorPath = false)
    (hpending : (Event.mk a r).writes st.pendingPath = false) :
    w.Moves st (w.cursor st) (w.buffer st) [⟨a, r⟩] (w.after a r) where
  toExtends := after_extends w a r hclear
  cursor := by simp only [cursor, files_after w a r _ hcursor]
  buffer := by simp only [buffer, files_after w a r _ hpending]
  history := rfl

end World

/-! ## Rules of a run -/

/-- The runs that a statement is about: how the world may change on its own before an act, and which
of the answers that it allows are given. -/
structure Rules where
  drifts : World → World → Prop
  admits : World → (a : Act) → a.Answer → Prop

/-- An act under the rules. -/
def Rules.Step (ρ : Rules) (w : World) (a : Act) (r : a.Answer) (w' : World) : Prop :=
  ∃ v, ρ.drifts w v ∧ v.allows a r ∧ ρ.admits v a r ∧ w' = v.after a r

/-- On its own, the log only gets more entries, and stays in order. -/
def Rules.Orderly (ρ : Rules) : Prop := ∀ w v, ρ.drifts w v → w.Grows v

theorem Rules.Step.moves {ρ : Rules} (hρ : ρ.Orderly) {w w' : World} {a : Act} {r : a.Answer}
    (h : ρ.Step w a r w') (st : LogStore) (hclear : (Event.mk a r).clears = false)
    (hcursor : (Event.mk a r).writes st.cursorPath = false)
    (hpending : (Event.mk a r).writes st.pendingPath = false) :
    w.Moves st (w.cursor st) (w.buffer st) [⟨a, r⟩] w' := by
  obtain ⟨v, hdrift, -, -, rfl⟩ := h
  have hg := (hρ w v hdrift).moves st
  have ha := v.after_moves a r st hclear hcursor hpending
  rw [hg.cursor, hg.buffer] at ha
  exact hg.trans ha

theorem Rules.Step.unclear {ρ : Rules} (hρ : ρ.Orderly)
    (hclear : ∀ w a r, ρ.admits w a r → (Event.mk a r).clears = false) {w v : World} {a : Act}
    {r : a.Answer} (h : ρ.Step w a r v) (hw : ∀ ev ∈ w.history, ev.clears = false) :
    ∀ ev ∈ v.history, ev.clears = false := by
  obtain ⟨u, hdrift, -, hadmits, rfl⟩ := h
  intro ev hev
  simp only [World.after, (hρ w u hdrift).history, List.mem_append, List.mem_singleton] at hev
  rcases hev with hmem | rfl
  · exact hw ev hmem
  · exact hclear u a r hadmits

theorem runs_history {ρ : Rules} (hρ : ρ.Orderly) {α : Type} {p : Program Act Act.Answer α}
    {w v : World} {o : Option α} (h : Program.Runs ρ.Step p w o v) : w.history <+: v.history := by
  refine h.keeps (I := fun v => w.history <+: v.history) ?_ (List.prefix_refl _)
  intro u a r u' hpre hstep
  obtain ⟨t, hdrift, -, -, rfl⟩ := hstep
  refine hpre.trans ?_
  simp only [World.after, (hρ u t hdrift).history]
  exact List.prefix_append _ _

/-- On its own, nothing changes. -/
def Rules.Still (ρ : Rules) : Prop := ∀ w v, ρ.drifts w v → v = w

theorem Rules.Still.orderly {ρ : Rules} (hρ : ρ.Still) : ρ.Orderly := by
  intro w v h
  rw [hρ w v h]
  exact World.Grows.refl w

/-- The log stays as it is but for its clearing; every answer may be given. -/
def Rules.still : Rules where
  drifts w v := v = w
  admits _ _ _ := True

theorem Rules.still_still : Rules.still.Still := fun _ _ h => h

/-- The log stays as it is but for its clearing; all events are of a kind. -/
def Rules.only (P : Event → Bool) : Rules where
  drifts w v := v = w
  admits _ a r := P ⟨a, r⟩ = true

theorem Rules.only_still (P : Event → Bool) : (Rules.only P).Still := fun _ _ h => h

/-- If nothing changes on its own, a run is one in which all events are of a kind, if they are. -/
theorem Rules.Still.runs_only {ρ : Rules} (hρ : ρ.Still) {P : Event → Bool} {α : Type}
    {p : Program Act Act.Answer α} {w v : World} {o : Option α} (h : Program.Runs ρ.Step p w o v)
    {evs : List Event} (hevs : v.history = w.history ++ evs) (hP : ∀ ev ∈ evs, P ev = true) :
    Program.Runs (Rules.only P).Step p w o v := by
  induction h generalizing evs with
  | done a s => exact .done a s
  | cut r k s => exact .cut r k s
  | @call r k s a s' o s'' step rest ih =>
    obtain ⟨evs', hevs'⟩ := runs_history hρ.orderly rest
    obtain ⟨u, hdrift, hallows, -, rfl⟩ := step
    rw [hρ s u hdrift] at ih hevs' hallows
    have hsplit : evs = ⟨r, a⟩ :: evs' := by
      rw [hevs] at hevs'
      simpa [World.after] using hevs'.symm
    rw [hsplit] at hP
    exact .call ⟨s, rfl, hallows, hP _ List.mem_cons_self, rfl⟩
      (ih hevs'.symm fun ev hev => hP ev (List.mem_cons_of_mem _ hev))

/-- If nothing changes on its own, a run that does not clear the log leaves it as it was. -/
theorem Rules.Still.entries {ρ : Rules} (hρ : ρ.Still) {α : Type} {p : Program Act Act.Answer α}
    {w v : World} {o : Option α} (h : Program.Runs ρ.Step p w o v) {evs : List Event}
    (hevs : v.history = w.history ++ evs) (hclear : ∀ ev ∈ evs, ev.clears = false) :
    v.entries = w.entries := by
  have hrun := hρ.runs_only (P := (!·.clears)) h hevs fun ev hev => by simp [hclear ev hev]
  refine hrun.keeps (I := fun u => u.entries = w.entries) ?_ rfl
  intro u a r u' hu hstep
  obtain ⟨t, rfl, -, hadmits, rfl⟩ := hstep
  rw [World.after_entries _ _ _ (by simpa [Rules.only] using hadmits), hu]

theorem Rules.Step.told {ρ : Rules} (hρ : ρ.Orderly) {w w' : World} {a : Act} {r : a.Answer}
    (h : ρ.Step w a r w') (st : LogStore) (hask : ∀ q, a ≠ .ask q) :
    w.Moves st (w.cursor st) (w.buffer st) [⟨a, r⟩] w' := by
  cases a with
  | ask q => exact absurd rfl (hask q)
  | plan es p => exact h.moves hρ st rfl rfl rfl
  | handled u => exact h.moves hρ st rfl rfl rfl

end HealthAgent
