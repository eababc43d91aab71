import HealthAgent.Proofs.EventLog.Acts
import HealthAgent.Proofs.EventLog.Store
import Mathlib.Data.List.Forall2
/-!
# What the parts of a cycle do

Each part of a cycle does one thing. It is described here by the effects that its runs can have,
those cut short included; the `Ensures` lemmas are all that later modules know of the parts.

Results:
* `ensures_replaceText`, `ensures_readText`: replacing and reading a state file.
* `ensures_saveCursor`, `ensures_loadBuffer`, `ensures_dispatchEntry`, `ensures_commit`,
  `ensures_checkUsage`: what the parts of a cycle do.
-/
namespace HealthAgent
open Program

/-- A terminal failure of the management controller that a run can meet. -/
def Rules.Fatal (ρ : Rules) (e : SourceError) : Prop :=
  e.isTerminal = true ∧ ∃ v r, ρ.admits v (.ask (.ipmi r)) (.error e)

/-- An answer to reading a file that tells its text, or that there is no file. -/
def ReadAnswer.Legible : ReadAnswer → Prop
  | .absent => True
  | .failed => False
  | .content bytes => (String.fromUTF8? bytes).isSome = true

def Rules.Reads (ρ : Rules) : Prop :=
  ∀ w path a, ρ.admits w (.ask (.file (.load path))) a → a.Legible

/-- The reading of a file can fail. -/
def Rules.Misses (ρ : Rules) (path : String) : Prop :=
  ∃ w, ρ.admits w (.ask (.file (.load path))) .failed

theorem Rules.Misses.not_reads {ρ : Rules} {path : String} (h : ρ.Misses path) : ¬ ρ.Reads := by
  obtain ⟨w, hadmits⟩ := h
  exact fun hreads => hreads w path _ hadmits

/-- Whether an event is no reading of a file that fails. -/
def Event.legible : Event → Bool
  | ⟨.ask (.file (.load _)), .failed⟩ => false
  | ⟨.ask (.file (.load _)), .content bytes⟩ => (String.fromUTF8? bytes).isSome
  | _ => true

theorem Rules.only_reads {P : Event → Bool} (h : ∀ ev, P ev = true → ev.legible = true) :
    (Rules.only P).Reads := by
  intro w path a hadmits
  have hlegible := h _ hadmits
  cases a with
  | failed => cases hlegible
  | absent => trivial
  | content bytes => exact hlegible

/-- The controller lists its log whenever it is asked to. -/
def Rules.Reports (ρ : Rules) : Prop :=
  ∀ w e, ¬ ρ.admits w (.ask (.ipmi .logList)) (.error e)

namespace LogSensor

/-- Whether an entry raises an alert: its sensor is known and its event is classified. -/
def alertable (s : LogSensor) (entry : LogEntry) : Bool :=
  match s.target? entry with
  | some (device, _) => (device.classify entry.description entry.status).isSome
  | none => false

/-- An alert tells of an entry. -/
def AlertFor (s : LogSensor) (entry : LogEntry) (alert : AlertRecord) : Prop :=
  ∃ device sensorId kind severity, s.target? entry = some (device, sensorId) ∧
    device.classify entry.description entry.status = some (kind, severity) ∧
    ∃ salt terminal time props, alert = s.context.assemble salt
      (device.draftOf entry sensorId terminal kind severity time props)

/-- The alerts tell of the entries that raise alerts, one by one and in order. -/
def AlertsFor (s : LogSensor) (entries : List LogEntry) (alerts : List AlertRecord) : Prop :=
  List.Forall₂ s.AlertFor (entries.filter s.alertable) alerts

theorem AlertsFor.append {s : LogSensor} {es es' : List LogEntry} {as as' : List AlertRecord}
    (h : s.AlertsFor es as) (h' : s.AlertsFor es' as') : s.AlertsFor (es ++ es') (as ++ as') := by
  unfold AlertsFor
  rw [List.filter_append]
  exact List.rel_append h h'

end LogSensor

namespace World

/-- The log is listed, and put into the buffer unless that fails. -/
def Fetches (st : LogStore) (lines : List String) (w v : World) : Prop :=
  w.buffer st = [] ∧ ∃ t u, w.Passes st [] t ∧ t.Lists st lines u ∧
    (u.Passes st [] v ∨ u.Stores st lines v)

/-- What the lines of a cycle are, and what getting them does. -/
inductive Loads (ρ : Rules) (st : LogStore) (w v : World) :
    Except SourceError (Option (List String)) → Prop
  | unreadable (passes : w.Passes st [] v) (cause : ¬ ρ.Reads) : Loads ρ st w v (.ok none)
  /-- The buffer holds what an earlier cycle left. -/
  | recovered (lines : List String) (left : w.buffer st = lines) (nonempty : lines ≠ [])
      (passes : w.Passes st [] v) : Loads ρ st w v (.ok (some lines))
  | unlisted (e : SourceError) (passes : w.Passes st [] v) (cause : ¬ ρ.Reports) :
      Loads ρ st w v (.error e)
  | fetched (lines : List String) (fetches : w.Fetches st lines v) :
      Loads ρ st w v (.ok (some lines))

/-- The cursor file gets the next cursor, if there is one, and the buffer is emptied. Either may
fail. -/
def Commits (st : LogStore) (next : Option UInt64) (w v : World) : Prop :=
  ∃ t, (w.Passes st [] t ∨ ∃ c, next = some c ∧ w.Saves st c t) ∧
    (t.Passes st [] v ∨ t.Stores st [] v)

/-- What the check of the usage does, and whether it clears the log. -/
inductive Checks (ρ : Rules) (st : LogStore) (w v : World) : Bool → Prop
  | passes (passes : w.Passes st [] v) : Checks ρ st w v false
  | refuses {u : World} (passes : w.Passes st [] u) (refuses : u.Refuses st v) : Checks ρ st w v false
  | clears {u : World} {text : String} (passes : w.Passes st [] u)
      (admits : ρ.admits u (.ask (.ipmi .logClear)) (.ok text)) (clears : u.Clears st v) :
      Checks ρ st w v true

/-- A fetched log holds at least what the log held before, and at most what it holds then. -/
theorem Fetches.entries {st : LogStore} {lines : List String} {w v : World}
    (hf : w.Fetches st lines v) :
    w.entries <+: LogEntry.parseLines lines ∧ LogEntry.parseLines lines <+: v.entries := by
  obtain ⟨-, t, u, hp, hl, hv⟩ := hf
  have hu := hl.extends
  obtain ⟨hlines, -⟩ := hl
  rw [hlines]
  refine ⟨(hp.extends.trans hu).entries, ?_⟩
  rcases hv with hp' | hs
  · exact hp'.extends.entries
  · exact hs.extends.entries

theorem Fetches.extends {st : LogStore} {lines : List String} {w v : World}
    (hf : w.Fetches st lines v) : w.Extends v := by
  obtain ⟨-, t, u, hp, hl, hv⟩ := hf
  have hu := hp.extends.trans hl.extends
  rcases hv with hp' | hs
  · exact hu.trans hp'.extends
  · exact hu.trans hs.extends

theorem Fetches.buffer {st : LogStore} {lines : List String} {w v : World}
    (hf : w.Fetches st lines v) : v.buffer st = [] ∨ v.buffer st = lines := by
  obtain ⟨hnone, t, u, hp, ⟨-, text, hm⟩, hv⟩ := hf
  rcases hv with hp' | ⟨bytes, hm'⟩
  · refine .inl ?_
    rw [hp'.buffer, hm.buffer, hp.buffer, hnone]
  · exact .inr hm'.buffer

theorem Commits.extends {st : LogStore} {next : Option UInt64} {w v : World}
    (hc : w.Commits st next v) : w.Extends v := by
  obtain ⟨t, ht, hv⟩ := hc
  have hwt : w.Extends t := by
    rcases ht with hp | ⟨c, -, hs⟩
    · exact hp.extends
    · exact hs.extends
  rcases hv with hp | hs
  · exact hwt.trans hp.extends
  · exact hwt.trans hs.extends

theorem Commits.buffer {st : LogStore} {next : Option UInt64} {w v : World}
    (hc : w.Commits st next v) : v.buffer st = w.buffer st ∨ v.buffer st = [] := by
  obtain ⟨t, ht, hv⟩ := hc
  have hwt : t.buffer st = w.buffer st := by
    rcases ht with hp | ⟨c, -, bytes, hm⟩
    · exact hp.buffer
    · exact hm.buffer
  rcases hv with hp | ⟨bytes, hm⟩
  · rw [hp.buffer]
    exact .inl hwt
  · exact .inr hm.buffer

theorem Since.fetches {st : LogStore} {lines : List String} {w₀ w v : World} {l : Bool}
    {ps hs : List LogEntry} {as : List AlertRecord} (h : w₀.Since l ps hs as w)
    (hf : w.Fetches st lines v) : w₀.Since true ps hs as v := by
  obtain ⟨-, t, u, hp, hl, hv⟩ := hf
  have hu : w₀.Since true ps hs (as ++ []) u := (h.passes hp).lists hl
  rcases hv with hp | hs
  · simpa using hu.passes hp
  · simpa using hu.stores hs

theorem Since.commits {st : LogStore} {next : Option UInt64} {w₀ w v : World} {l : Bool}
    {ps hs : List LogEntry} {as : List AlertRecord} (h : w₀.Since l ps hs as w)
    (hc : w.Commits st next v) : w₀.Since l ps hs as v := by
  obtain ⟨t, ht, hv⟩ := hc
  have hst : w₀.Since l ps hs as t := by
    rcases ht with hp | ⟨c, -, hs⟩
    · simpa using h.passes hp
    · exact h.saves hs
  rcases hv with hp | hs
  · simpa using hst.passes hp
  · exact hst.stores hs

end World

section
open World

variable {ρ : Rules} (hρ : ρ.Orderly)
include hρ

theorem ensures_replaceText (st : LogStore) (path text : String) (w : World) {E : World → Prop}
    (hE : ∀ v, ρ.Step w (.ask (.file (.replace path text.toUTF8))) .written v → E v) :
    Ensures ρ.Step (fun v => w.Passes st [] v ∨ E v) (acts (State.replaceText path text)) w
      fun r v => (r = .ok () ∧ E v) ∨ (∃ e, r = .error e) ∧ w.Passes st [] v := by
  apply Ensures.call (.inl (.refl st w))
  intro a v hstep
  cases a with
  | written => exact .done (.inr (hE v hstep)) (.inl ⟨rfl, hE v hstep⟩)
  | noFolder =>
    have hp := hstep.passes hρ st rfl rfl
    exact .done (.inl hp) (.inr ⟨⟨_, rfl⟩, hp⟩)
  | refused =>
    have hp := hstep.passes hρ st rfl rfl
    exact .done (.inl hp) (.inr ⟨⟨_, rfl⟩, hp⟩)

/-- Reading a text changes nothing; if it succeeds, it tells the text of the file. It fails if the
reading does, or if the file holds no text. -/
theorem ensures_readText (st : LogStore) (path : String) (w : World) :
    Ensures ρ.Step (w.Passes st []) (acts (State.readText path)) w fun r v => w.Passes st [] v ∧
      (∀ text, r = .ok text → text.getD "" = ((w.files path).bind String.fromUTF8?).getD "") ∧
      ∀ e, r = .error e → ¬ ρ.Reads ∧
        (ρ.Misses path ∨ (w.files path).bind String.fromUTF8? = none) := by
  apply Ensures.call (.refl st w)
  intro a v hstep
  have hp := hstep.passes hρ st rfl rfl
  obtain ⟨u, hdrift, hallows, hadmits, -⟩ := hstep
  have hfiles : u.files path = w.files path := by rw [(hρ w u hdrift).files]
  cases a with
  | failed =>
    have hmisses : ρ.Misses path := ⟨u, hadmits⟩
    exact .done hp ⟨hp, nofun, fun _ _ => ⟨hmisses.not_reads, .inl hmisses⟩⟩
  | absent =>
    refine .done hp ⟨hp, ?_, nofun⟩
    rintro text ⟨⟩
    rcases hallows with h | h
    · cases h
    · revert h
      rw [← hfiles]
      cases hf : u.files path <;> simp [content, hf]
  | content bytes =>
    have hf : w.files path = some bytes := by
      rw [← hfiles]
      rcases hallows with h | h
      · cases h
      · revert h
        cases hf : u.files path <;> simp [content, hf, eq_comm]
    refine .done hp ⟨hp, ?_, ?_⟩
    · intro text h
      simp only [hf, Option.bind_some]
      cases hb : String.fromUTF8? bytes with
      | none => rw [hb] at h; cases h
      | some text' => rw [hb] at h; cases h; rfl
    · intro e h
      cases hb : String.fromUTF8? bytes with
      | some text => rw [hb] at h; cases h
      | none =>
        refine ⟨fun hreads => ?_, .inr (by rw [hf, Option.bind_some, hb])⟩
        have hlegible : (String.fromUTF8? bytes).isSome = true := hreads u path _ hadmits
        simp [hb] at hlegible

theorem ensures_saveCursor (s : LogSensor) (hst : s.store.Apart) (w : World) :
    Ensures ρ.Step (fun v => w.Passes s.store [] v ∨ w.Saves s.store s.cursor v)
      (acts s.saveCursor) w fun s' v =>
        (s' = { s with cursorUnsaved := false } ∧ w.Saves s.store s.cursor v) ∨
          s' = { s with cursorUnsaved := true } ∧ w.Passes s.store [] v := by
  have hsave := ensures_replaceText hρ s.store s.store.cursorPath (LogStore.cursorText s.cursor) w
    fun v hstep => hstep.saves hρ hst
  apply Ensures.acts_bind hsave
  rintro r v (⟨rfl, hsaves⟩ | ⟨⟨e, rfl⟩, hpasses⟩)
  · exact .done (.inr hsaves) (.inl ⟨rfl, hsaves⟩)
  · exact .done (.inl hpasses) (.inr ⟨rfl, hpasses⟩)

theorem ensures_retryCursor (s : LogSensor) (hst : s.store.Apart) (w : World) :
    Ensures ρ.Step (fun v => w.Passes s.store [] v ∨ w.Saves s.store s.cursor v)
      (acts s.retryCursor) w fun s' v =>
        (∃ unsaved, s' = { s with cursorUnsaved := unsaved }) ∧
          (w.Passes s.store [] v ∨ w.Saves s.store s.cursor v) := by
  unfold LogSensor.retryCursor
  split
  · refine (ensures_saveCursor hρ s hst w).mono (fun _ h => h) ?_
    rintro s' v - (⟨rfl, hsaves⟩ | ⟨rfl, hpasses⟩)
    · exact ⟨⟨false, rfl⟩, .inr hsaves⟩
    · exact ⟨⟨true, rfl⟩, .inl hpasses⟩
  · exact .done (.inl (.refl _ w)) ⟨⟨s.cursorUnsaved, rfl⟩, .inl (.refl _ w)⟩

theorem ensures_replacePending (st : LogStore) (hst : st.Apart) (text : String) (w : World) :
    Ensures ρ.Step (fun v => w.Passes st [] v ∨ w.Stores st text.writtenLines v)
      (acts (st.replacePending text)) w fun _ v =>
        w.Passes st [] v ∨ w.Stores st text.writtenLines v := by
  have hput := ensures_replaceText hρ st st.pendingPath text w fun v hstep => hstep.stores hρ hst
  refine hput.mono (fun _ h => h) ?_
  intro r v h _
  exact h

theorem ensures_pending (st : LogStore) (w : World) :
    Ensures ρ.Step (w.Passes st []) (acts st.pending) w fun r v =>
      w.Passes st [] v ∧ (∀ lines, r = .ok lines → lines = w.buffer st) ∧
        ∀ e, r = .error e → ¬ ρ.Reads := by
  apply Ensures.acts_bind (ensures_readText hρ st st.pendingPath w)
  rintro r v ⟨hp, htext, hunread⟩
  cases r with
  | error e => exact .done hp ⟨hp, nofun, fun _ _ => (hunread e rfl).1⟩
  | ok text =>
    refine .done hp ⟨hp, ?_, nofun⟩
    rintro lines ⟨⟩
    simp only [htext text rfl, buffer]
    cases (w.files st.pendingPath).bind String.fromUTF8? <;> rfl

theorem ensures_loadBuffer (s : LogSensor) (hst : s.store.Apart) (w : World) :
    Ensures ρ.Step (fun v => w.Passes s.store [] v ∨ ∃ lines, w.Fetches s.store lines v)
      (acts s.loadBuffer) w fun r v => w.Loads ρ s.store v r := by
  apply Ensures.acts_bind ((ensures_pending hρ s.store w).mono (fun _ h => .inl h) fun _ _ _ h => h)
  rintro r v ⟨hp, hlines, hunread⟩
  rcases r with e | _ | ⟨line, lines⟩
  · exact .done (.inl hp) (.unreadable hp (hunread e rfl))
  · have hnone := (hlines [] rfl).symm
    apply Ensures.call (.inl hp)
    intro a v₁ hstep
    cases a with
    | error e =>
      have hp' := hp.trans (hstep.passes hρ s.store rfl rfl)
      obtain ⟨u, -, -, hadmits, -⟩ := hstep
      exact .done (.inl hp') (.unlisted e hp' fun hreports => hreports u e hadmits)
    | ok text =>
      have hlist := hstep.lists hρ s.store
      have hfetch : ∀ v₂, v₁.Passes s.store [] v₂ ∨ v₁.Stores s.store text.writtenLines v₂ →
          w.Fetches s.store text.writtenLines v₂ := fun v₂ h => ⟨hnone, v, v₁, hp, hlist, h⟩
      have hput := (ensures_replacePending hρ s.store hst text v₁).mono hfetch
        fun _ v₂ hi _ => hfetch v₂ hi
      change Ensures _ _ (acts ((s.store.replacePending text).bind fun _ =>
        .done (Except.ok (some text.writtenLines)))) v₁ _
      refine Ensures.acts_bind (hput.mono (fun v₂ h => .inr ⟨_, h⟩) fun _ _ _ h => h) ?_
      intro r v₂ hf
      exact .done (.inr ⟨_, hf⟩) (.fetched _ hf)
  · exact .done (.inl hp) (.recovered _ (hlines _ rfl).symm (by simp) hp)

theorem ensures_describe (st : LogStore) (d : Device) (sensorId : String) (w : World) :
    Ensures ρ.Step (w.Passes st []) (acts (d.describe sensorId)) w fun r v =>
      w.Passes st [] v ∧ ∀ e, r = .error e → ρ.Fatal e := by
  rw [d.describe_eq]
  apply Ensures.call (.refl st w)
  intro reply v hstep
  have hp : w.Passes st [] v := by
    refine hstep.passes hρ st ?_ rfl
    cases d <;> rfl
  obtain ⟨u, -, -, hadmits, -⟩ := hstep
  refine .done hp ⟨hp, fun e he => ?_⟩
  obtain ⟨rfl, hterminal⟩ := Device.read_eq_error he
  exact ⟨hterminal, u, d.request sensorId, hadmits⟩

theorem ensures_eventTimeOf (st : LogStore) (zone : Calendar.Zone) (entry : LogEntry) (w : World) :
    Ensures ρ.Step (w.Passes st []) (acts (Device.eventTimeOf zone entry)) w fun _ v =>
      w.Passes st [] v := by
  unfold Device.eventTimeOf
  split
  · exact .done (.refl st w) (.refl st w)
  · apply Ensures.call (.refl st w)
    intro a v hstep
    have hp := hstep.passes hρ st rfl rfl
    exact .done hp hp

theorem ensures_draft (st : LogStore) (d : Device) (zone : Calendar.Zone) (entry : LogEntry)
    (sensorId : String) (terminal : Bool) (w : World) :
    Ensures ρ.Step (w.Passes st []) (acts (d.draft zone entry sensorId terminal)) w fun r v =>
      w.Passes st [] v ∧ match r with
        | .error e => ρ.Fatal e
        | .ok none => d.classify entry.description entry.status = none
        | .ok (some draft) => ∃ kind severity time props,
            d.classify entry.description entry.status = some (kind, severity) ∧
              draft = d.draftOf entry sensorId terminal kind severity time props := by
  unfold Device.draft
  split
  · rename_i hnone
    exact .done (.refl st w) ⟨.refl st w, hnone⟩
  · rename_i kind severity hsome
    apply Ensures.acts_bind (ensures_describe hρ st d sensorId w)
    rintro r v ⟨hp, hfatal⟩
    cases r with
    | error e => exact .done hp ⟨hp, hfatal e rfl⟩
    | ok props =>
      have htime := ensures_eventTimeOf hρ st zone entry v
      refine Ensures.acts_bind (htime.mono (fun _ h => hp.trans h) fun _ _ _ h => hp.trans h) ?_
      intro time v' hp'
      exact .done hp' ⟨hp', kind, severity, time, props, hsome, rfl⟩

theorem ensures_dispatchEntry (s : LogSensor) (u : TailPlan.Unseen) (w : World) :
    Ensures ρ.Step (fun v => ∃ alerts, w.Passes s.store alerts v) (acts (s.dispatchEntry u)) w
      fun r v => (r = .ok () ∧ ∃ alerts, s.AlertsFor [u.entry] alerts ∧ w.Passes s.store alerts v) ∨
        ∃ e, r = .error e ∧ ρ.Fatal e ∧ w.Passes s.store [] v := by
  have hsilent : s.alertable u.entry = false → s.AlertsFor [u.entry] [] := by
    intro h
    simp [LogSensor.AlertsFor, h]
  unfold LogSensor.dispatchEntry
  split
  · rename_i hnone
    have hp := Passes.refl s.store w
    have halert : s.alertable u.entry = false := by simp [LogSensor.alertable, hnone]
    exact .done ⟨_, hp⟩ (.inl ⟨rfl, [], hsilent halert, hp⟩)
  · rename_i device sensorId htarget
    have hdraft := ensures_draft hρ s.store device s.zone u.entry sensorId u.terminal w
    apply Ensures.acts_bind (hdraft.mono (fun _ h => ⟨_, h⟩) fun _ _ _ h => h)
    rintro r v ⟨hp, hr⟩
    rcases r with e | _ | draft
    · exact .done ⟨_, hp⟩ (.inr ⟨e, rfl, hr, hp⟩)
    · have halert : s.alertable u.entry = false := by simp [LogSensor.alertable, htarget, hr]
      exact .done ⟨_, hp⟩ (.inl ⟨rfl, [], hsilent halert, hp⟩)
    · obtain ⟨kind, severity, time, props, hclass, rfl⟩ := hr
      have halert : s.alertable u.entry = true := by simp [LogSensor.alertable, htarget, hclass]
      apply Ensures.call ⟨_, hp⟩
      intro salt v₁ hstep
      have hp₁ := hp.trans (hstep.passes hρ s.store rfl rfl)
      apply Ensures.call ⟨_, hp₁⟩
      intro taken v₂ hstep
      have hp₂ := hp₁.trans (hstep.passes hρ s.store rfl rfl)
      refine .done ⟨_, hp₂⟩ (.inl ⟨rfl, _, ?_, hp₂⟩)
      simp only [LogSensor.AlertsFor, List.filter_cons, halert, if_true, List.filter_nil]
      exact .cons ⟨device, sensorId, kind, severity, htarget, hclass, salt, u.terminal, time, props,
        rfl⟩ .nil

theorem ensures_commit (s : LogSensor) (hst : s.store.Apart) (plan : TailPlan) (w : World) :
    Ensures ρ.Step (w.Commits s.store plan.nextCursor) (acts (s.commit plan)) w fun s' v =>
      (∃ unsaved, s' = { s with cursor := plan.nextCursor.getD s.cursor, cursorUnsaved := unsaved }) ∧
        w.Commits s.store plan.nextCursor v := by
  have hclear : ∀ (s' : LogSensor) (t : World),
      (∃ unsaved, s' = { s with cursor := plan.nextCursor.getD s.cursor, cursorUnsaved := unsaved }) →
      (w.Passes s.store [] t ∨ ∃ c, plan.nextCursor = some c ∧ w.Saves s.store c t) →
      Ensures ρ.Step (w.Commits s.store plan.nextCursor)
        (acts (s'.store.clearPending.bind fun _ => .done s')) t fun s' v =>
        (∃ unsaved, s' = { s with cursor := plan.nextCursor.getD s.cursor, cursorUnsaved := unsaved }) ∧
          w.Commits s.store plan.nextCursor v := by
    intro s' t hs' ht
    obtain ⟨unsaved, rfl⟩ := hs'
    have hput := ensures_replacePending hρ s.store hst "" t
    refine Ensures.acts_bind (hput.mono (fun v h => ⟨t, ht, h⟩) fun _ _ _ h => h) ?_
    intro r v hv
    exact .done ⟨t, ht, hv⟩ ⟨⟨unsaved, rfl⟩, ⟨t, ht, hv⟩⟩
  unfold LogSensor.commit
  cases hnext : plan.nextCursor with
  | none =>
    rw [hnext] at hclear
    exact hclear s w ⟨s.cursorUnsaved, rfl⟩ (.inl (.refl _ w))
  | some index =>
    rw [hnext] at hclear
    have hsave := ensures_saveCursor hρ { s with cursor := index } hst w
    refine Ensures.acts_bind (hsave.mono ?_ fun _ _ _ h => h) ?_
    · intro v hv
      rcases hv with hp | hs
      · exact ⟨v, .inl hp, .inl (.refl _ v)⟩
      · exact ⟨v, .inr ⟨index, rfl, hs⟩, .inl (.refl _ v)⟩
    · intro s' v hv
      rcases hv with ⟨rfl, hs⟩ | ⟨rfl, hp⟩
      · exact hclear _ v ⟨false, rfl⟩ (.inr ⟨index, rfl, hs⟩)
      · exact hclear _ v ⟨true, rfl⟩ (.inl hp)

theorem ensures_check (st : LogStore) (m : UsageMonitor) (now : Nat) (w : World) :
    Ensures ρ.Step (fun v => ∃ cleared, w.Checks ρ st v cleared) (acts (m.check now)) w
      fun r v => ∃ cleared, w.Checks ρ st v cleared ∧ (r.1 = .ok true ↔ cleared = true) := by
  have hend : ∀ (r : Except SourceError Bool × UsageMonitor) (v : World), r.1 ≠ .ok true →
      w.Passes st [] v → Ensures ρ.Step (fun v => ∃ cleared, w.Checks ρ st v cleared) (.done r) v
        fun r v => ∃ cleared, w.Checks ρ st v cleared ∧ (r.1 = .ok true ↔ cleared = true) := by
    intro r v hr hp
    exact .done ⟨false, .passes hp⟩ ⟨false, .passes hp, by simp [hr]⟩
  unfold UsageMonitor.check
  split
  · exact hend _ w (by simp) (.refl st w)
  · apply Ensures.call ⟨false, .passes (.refl st w)⟩
    intro a v hstep
    have hp := hstep.passes hρ st rfl rfl
    cases a with
    | error e => exact hend _ v (by simp) hp
    | ok text =>
      simp only [bind_done, bind_eq]
      split
      · exact hend _ v (by simp) hp
      split
      · exact hend _ v (by simp) hp
      apply Ensures.call ⟨false, .passes hp⟩
      intro a v₁ hstep
      cases a with
      | ok text =>
        obtain ⟨u, hpass, hadmits, hclears⟩ := hstep.clears hρ st
        have hc : w.Checks ρ st v₁ true := .clears (hp.trans hpass) hadmits hclears
        exact .done ⟨true, hc⟩ ⟨true, hc, by simp⟩
      | error e =>
        have hc : w.Checks ρ st v₁ false := .refuses hp ⟨e, hstep.moves hρ st rfl rfl rfl⟩
        refine .done ⟨false, hc⟩ ⟨false, hc, ?_⟩
        split <;> simp

theorem ensures_checkUsage (s : LogSensor) (hst : s.store.Apart) (now : Nat) (w : World) :
    Ensures ρ.Step (fun v => (∃ cleared, w.Checks ρ s.store v cleared) ∨
        ∃ u, w.Checks ρ s.store u true ∧ (u.Passes s.store [] v ∨ u.Saves s.store 0 v))
      (acts (s.checkUsage now)) w fun r v =>
        (∃ usage, r.2 = { s with usage } ∧ w.Checks ρ s.store v false) ∨
          ∃ usage unsaved u, r.2 = { s with usage, cursor := 0, cursorUnsaved := unsaved } ∧
            w.Checks ρ s.store u true ∧ (u.Passes s.store [] v ∨ u.Saves s.store 0 v) := by
  apply Ensures.acts_bind ((ensures_check hρ s.store s.usage now w).mono (fun _ h => .inl h)
    fun _ _ _ h => h)
  rintro ⟨r, usage⟩ v ⟨cleared, hc, hr⟩
  rcases r with e | _ | _
  · have hno : cleared = false := by simpa using hr
    rw [hno] at hc
    exact .done (.inl ⟨_, hc⟩) (.inl ⟨usage, rfl, hc⟩)
  · have hno : cleared = false := by simpa using hr
    rw [hno] at hc
    exact .done (.inl ⟨_, hc⟩) (.inl ⟨usage, rfl, hc⟩)
  · have hyes : cleared = true := by simpa using hr
    rw [hyes] at hc
    have hsave := ensures_saveCursor hρ { s with usage, cursor := 0 } hst v
    refine Ensures.acts_bind (hsave.mono (fun v' h => .inr ⟨v, hc, h⟩) fun _ _ _ h => h) ?_
    rintro s' v' (⟨rfl, hv⟩ | ⟨rfl, hv⟩)
    · exact .done (.inr ⟨v, hc, .inr hv⟩) (.inr ⟨usage, false, v, rfl, hc, .inr hv⟩)
    · exact .done (.inr ⟨v, hc, .inl hv⟩) (.inr ⟨usage, true, v, rfl, hc, .inl hv⟩)

end
end HealthAgent
