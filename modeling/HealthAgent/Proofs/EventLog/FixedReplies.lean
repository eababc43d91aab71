import HealthAgent.Proofs.EventLog.Replies
/-!
# Runs under fixed replies

A controller that gives the same reply to the same request, beside a disk that can be read and
written, leaves three things to chance: the clock, the random texts, and whether the receivers take
an alert. All else that a sensor does is then settled by its files, the log and the replies. Each
part of a cycle that deals with files has one lemma here that says what its runs to the end yield.

`Tale` is what the events of a stretch tell of it: the handled entries with their marks, the alerts,
the times that the clock told, and whether the log was listed or cleared.

Results:
* `yields_reply`: an act that is not left to chance has one answer.
* `yields_readText`, `yields_replaceText`: reading and replacing a state file.
* `yields_openIn`, `yields_storeCursor`: opening a store that tells its cursor.
* `yields_loadBuffer_left`, `yields_loadBuffer_listed`: the lines of a cycle.
* `yields_commit`, `yields_checkUsage`: the end of a cycle.
-/
namespace HealthAgent
open Program World

/-! ## Rules -/

/-- Whether the answer to an act is left to chance. -/
def Act.chancy : Act → Bool
  | .ask .clock | .ask .salt | .ask (.deliver _) => true
  | _ => false

/-- A controller with these replies, beside a disk that can be read and written. -/
def Replies.fixed (ipmi : IpmiRequest → Except SourceError String) : Replies :=
  ⟨ipmi, fun _ => true, fun _ _ => false⟩

/-- The controller gives these replies and the disk can be read and written; clock, random texts and
receivers answer in any way. -/
def Rules.replying (ipmi : IpmiRequest → Except SourceError String) : Rules where
  drifts w v := v = w
  admits w a r := a.chancy = false → r = (Replies.fixed ipmi).answer w a

theorem Rules.replying_still (ipmi : IpmiRequest → Except SourceError String) :
    (Rules.replying ipmi).Still := fun _ _ h => h

theorem Replies.fixed_obey (ipmi : IpmiRequest → Except SourceError String) :
    (Replies.fixed ipmi).Obey (.replying ipmi) := fun _ _ => ⟨rfl, fun _ => rfl⟩

variable {ipmi : IpmiRequest → Except SourceError String}

theorem Replies.fixed_ipmi {r : IpmiRequest} (h : r ≠ .logList) (w : World) :
    (Replies.fixed ipmi).answer w (.ask (.ipmi r)) = ipmi r := by
  cases r <;> first | rfl | contradiction

theorem Rules.Step.replying {w v : World} {a : Act} {r : a.Answer}
    (h : (Rules.replying ipmi).Step w a r v) :
    v = w.after a r ∧ (a.chancy = false → r = (Replies.fixed ipmi).answer w a) := by
  obtain ⟨u, rfl, -, hadmits, rfl⟩ := h
  exact ⟨rfl, hadmits⟩

/-! ## Tales -/

namespace Event

/-- The handled entry with its mark, if the event tells of one. -/
def unseen? : Event → Option TailPlan.Unseen
  | ⟨.handled u, _⟩ => some u
  | _ => none

/-- The time that the clock tells, if the event is a look at it. -/
def clock? : Event → Option String
  | ⟨.ask .clock, text⟩ => some text
  | _ => none

def asksList : Event → Bool
  | ⟨.ask (.ipmi .logList), _⟩ => true
  | _ => false

end Event

@[ext] structure Tale where
  handled : List TailPlan.Unseen
  alerts : List AlertRecord
  /-- The times that the clock told. -/
  clock : List String
  /-- Whether the log was asked for. -/
  listed : Bool
  cleared : Bool

/-- What events tell. -/
def tale (evs : List Event) : Tale where
  handled := evs.filterMap Event.unseen?
  alerts := delivered evs
  clock := evs.filterMap Event.clock?
  listed := evs.any Event.asksList
  cleared := evs.any Event.clears

namespace Tale

instance : EmptyCollection Tale := ⟨⟨[], [], [], false, false⟩⟩

instance : Append Tale :=
  ⟨fun a b => ⟨a.handled ++ b.handled, a.alerts ++ b.alerts, a.clock ++ b.clock,
    a.listed || b.listed, a.cleared || b.cleared⟩⟩

variable (a b : Tale)

@[simp] theorem handled_append : (a ++ b).handled = a.handled ++ b.handled := rfl
@[simp] theorem alerts_append : (a ++ b).alerts = a.alerts ++ b.alerts := rfl
@[simp] theorem clock_append : (a ++ b).clock = a.clock ++ b.clock := rfl
@[simp] theorem listed_append : (a ++ b).listed = (a.listed || b.listed) := rfl
@[simp] theorem cleared_append : (a ++ b).cleared = (a.cleared || b.cleared) := rfl

@[simp] theorem handled_empty : (∅ : Tale).handled = [] := rfl
@[simp] theorem alerts_empty : (∅ : Tale).alerts = [] := rfl
@[simp] theorem clock_empty : (∅ : Tale).clock = [] := rfl
@[simp] theorem listed_empty : (∅ : Tale).listed = false := rfl
@[simp] theorem cleared_empty : (∅ : Tale).cleared = false := rfl

@[simp] theorem empty_append : ∅ ++ a = a := by ext1 <;> simp
@[simp] theorem append_empty : a ++ ∅ = a := by ext1 <;> simp

end Tale

theorem tale_append (xs ys : List Event) : tale (xs ++ ys) = tale xs ++ tale ys := by
  ext1 <;> simp [tale]

namespace World

/-- What has happened since a world. -/
def Tells (w : World) (τ : Tale) (v : World) : Prop :=
  ∃ evs, v.history = w.history ++ evs ∧ tale evs = τ

/-- Neither a file nor the log has changed, and the events since tell this. -/
structure Passed (w : World) (τ : Tale) (v : World) : Prop where
  files : v.files = w.files
  log : v.log = w.log
  tells : w.Tells τ v

variable {u v w : World} {σ τ : Tale}

theorem Tells.refl (w : World) : w.Tells ∅ w := ⟨[], by simp, rfl⟩

theorem Tells.after (w : World) (a : Act) (r : a.Answer) :
    w.Tells (tale [⟨a, r⟩]) (w.after a r) := ⟨[⟨a, r⟩], rfl, rfl⟩

theorem Tells.trans (h : u.Tells σ v) (h' : v.Tells τ w) : u.Tells (σ ++ τ) w := by
  obtain ⟨evs, hevs, rfl⟩ := h
  obtain ⟨evs', hevs', rfl⟩ := h'
  exact ⟨evs ++ evs', by rw [hevs', hevs, List.append_assoc], tale_append evs evs'⟩

theorem Tells.eq (h : w.Tells τ v) {evs : List Event} (hevs : v.history = w.history ++ evs) :
    tale evs = τ := by
  obtain ⟨evs', hevs', rfl⟩ := h
  rw [hevs'] at hevs
  rw [List.append_cancel_left hevs]

theorem Passed.refl (w : World) : w.Passed ∅ w := ⟨rfl, rfl, .refl w⟩

theorem Passed.trans (h : u.Passed σ v) (h' : v.Passed τ w) : u.Passed (σ ++ τ) w :=
  ⟨h'.files.trans h.files, h'.log.trans h.log, h.tells.trans h'.tells⟩

/-- Only the replacing of a file and the clearing of the log change anything. -/
theorem Passed.after (w : World) (a : Act) (r : a.Answer)
    (hfiles : ∀ path, (Event.mk a r).writes path = false) (hlog : (Event.mk a r).clears = false) :
    w.Passed (tale [⟨a, r⟩]) (w.after a r) := by
  refine ⟨funext fun path => files_after w a r path (hfiles path), ?_, .after w a r⟩
  simp [World.after, hlog]

/-! ## Files as texts -/

/-- What the reading of a file tells: its text, and nothing if there is no file. -/
def text? (w : World) (path : String) : Option String :=
  match w.files path with
  | some bytes => String.fromUTF8? bytes
  | none => some ""

/-- The cursor file tells this number. -/
def Saved (st : LogStore) (c : UInt64) (w : World) : Prop :=
  ∃ text, w.text? st.cursorPath = some text ∧ LogStore.parseCursor text = .ok c

/-- The world once a file has been replaced by a text. -/
def put (w : World) (path text : String) : World :=
  w.after (.ask (.file (.replace path text.toUTF8))) .written

variable {st : LogStore} {c : UInt64}

theorem text?_of_files (h : v.files = w.files) (path : String) : v.text? path = w.text? path := by
  rw [World.text?, World.text?, h]

theorem Saved.of_text? (h : w.Saved st c) (hv : v.text? st.cursorPath = w.text? st.cursorPath) :
    v.Saved st c := by
  obtain ⟨text, htext, hparse⟩ := h
  exact ⟨text, hv.trans htext, hparse⟩

theorem Saved.of_files (h : w.Saved st c) (hv : v.files = w.files) : v.Saved st c :=
  h.of_text? (text?_of_files hv _)

theorem put_text? (w : World) (path text : String) : (w.put path text).text? path = some text := by
  simp [World.text?, put, World.after, filesAfter, fromUTF8?_toByteArray]

theorem put_text?_of_ne (w : World) {path other : String} (h : other ≠ path) (text : String) :
    (w.put path text).text? other = w.text? other := by
  simp [World.text?, put, World.after, filesAfter, h]

theorem put_tells (w : World) (path text : String) : w.Tells ∅ (w.put path text) := ⟨[_], rfl, rfl⟩

theorem put_saved (w : World) (st : LogStore) (c : UInt64) :
    (w.put st.cursorPath (LogStore.cursorText c)).Saved st c :=
  ⟨_, put_text? w _ _, LogStore.parseCursor_cursorText c⟩

theorem Saved.put (h : w.Saved st c) (hst : st.Apart) (text : String) :
    (w.put st.pendingPath text).Saved st c := h.of_text? (put_text?_of_ne w hst text)

end World

/-! ## Acts -/

/-- Under these replies, every run of `p` from `w` that comes to its end does so with `Q`. -/
abbrev Yields {α : Type} (ipmi : IpmiRequest → Except SourceError String) (p : ActProgram α)
    (w : World) (Q : α → World → Prop) : Prop :=
  Ensures (Rules.replying ipmi).Step (fun _ => True) p w Q

theorem yields_reply {α : Type} {a : Act} (ha : a.chancy = false) {k : a.Answer → ActProgram α}
    {w : World} {Q : α → World → Prop}
    (hk : Yields ipmi (k ((Replies.fixed ipmi).answer w a))
      (w.after a ((Replies.fixed ipmi).answer w a)) Q) : Yields ipmi (.call a k) w Q := by
  refine Ensures.call trivial ?_
  intro r v hstep
  obtain ⟨rfl, hreply⟩ := hstep.replying
  rw [hreply ha]
  exact hk

theorem yields_ipmi {α : Type} {r : IpmiRequest} (hlist : r ≠ .logList)
    {k : Except SourceError String → ActProgram α} {w : World} {Q : α → World → Prop}
    (hk : Yields ipmi (k (ipmi r)) (w.after (.ask (.ipmi r)) (ipmi r)) Q) :
    Yields ipmi (.call (.ask (.ipmi r)) k) w Q := by
  refine yields_reply rfl ?_
  rw [Replies.fixed_ipmi hlist]
  exact hk

theorem yields_replaceText (path text : String) (w : World) :
    Yields ipmi (acts (State.replaceText path text)) w fun r v =>
      r = .ok () ∧ v = w.put path text :=
  yields_reply rfl (.done trivial ⟨rfl, rfl⟩)

theorem yields_readText (path : String) (w : World) :
    Yields ipmi (acts (State.readText path)) w fun r v =>
      r.toOption.map (·.getD "") = w.text? path ∧ w.Passed ∅ v := by
  refine yields_reply rfl ?_
  have hanswer : (Replies.fixed ipmi).answer w (.ask (.file (.load path))) = w.content path := rfl
  generalize (Replies.fixed ipmi).answer w (.ask (.file (.load path))) = a at hanswer ⊢
  have hp : w.Passed ∅ (w.after (.ask (.file (.load path))) a) :=
    Passed.after w _ a (fun _ => rfl) rfl
  unfold World.text?
  unfold content at hanswer
  cases hfile : w.files path with
  | none =>
    rw [hfile] at hanswer
    cases hanswer
    exact .done trivial ⟨rfl, hp⟩
  | some bytes =>
    rw [hfile] at hanswer
    cases hanswer
    refine .done trivial ⟨?_, hp⟩
    simp only
    cases String.fromUTF8? bytes <;> rfl

/-! ## The opening of a store -/

theorem yields_openPending {st : LogStore} (hst : st.Apart) {c : UInt64} {text : String} {w : World}
    (hsaved : w.Saved st c) (htext : w.text? st.pendingPath = some text)
    (k : Except StoreError (Option String) → SensorProgram (Except StoreError LogStore))
    (hsome : ∀ text, k (.ok (some text)) = .done (.ok st))
    (hnone : k (.ok none) = st.clearPending.bind fun r => .done (r.map fun _ => st)) :
    Yields ipmi (acts ((State.readText st.pendingPath).bind k)) w fun r v =>
      r = .ok st ∧ v.Saved st c ∧ v.text? st.pendingPath = some text := by
  refine Ensures.acts_bind (yields_readText _ w) ?_
  rintro r v ⟨hread, hp⟩
  rw [htext] at hread
  have hsaved' := hsaved.of_files hp.files
  have htext' := (text?_of_files hp.files _).trans htext
  rcases r with e | _ | text'
  · cases hread
  · rw [hnone]
    obtain rfl : "" = text := Option.some.inj hread
    refine Ensures.acts_bind (yields_replaceText _ _ v) ?_
    rintro r u ⟨rfl, rfl⟩
    exact .done trivial ⟨rfl, hsaved'.put hst "", put_text? _ _ _⟩
  · rw [hsome]
    exact .done trivial ⟨rfl, hsaved', htext'⟩

/-- The opening of a store whose files can be read changes nothing that they tell. -/
theorem yields_openIn (folder : String) {c : UInt64} {text : String} {w : World}
    (hsaved : w.Saved (.inFolder folder) c)
    (htext : w.text? (LogStore.inFolder folder).pendingPath = some text) :
    Yields ipmi (acts (LogStore.openIn folder)) w fun r v =>
      r = .ok (.inFolder folder) ∧ v.Saved (.inFolder folder) c ∧
        v.text? (LogStore.inFolder folder).pendingPath = some text := by
  have hst := LogStore.inFolder_apart folder
  unfold LogStore.openIn
  generalize LogStore.inFolder folder = st at hst hsaved htext ⊢
  refine yields_reply rfl ?_
  have hmade := Passed.after w (.ask (.file (.makeFolder folder))) true (fun _ => rfl) rfl
  change Yields _ (acts ((State.readText st.cursorPath).bind _))
    (w.after (.ask (.file (.makeFolder folder))) true) _
  refine Ensures.acts_bind (yields_readText _ _) ?_
  rintro r v ⟨hread, hp⟩
  have hfiles := hp.files.trans hmade.files
  have hsaved' := hsaved.of_files hfiles
  have htext' := (text?_of_files hfiles _).trans htext
  obtain ⟨t, ht, hparse⟩ := hsaved
  rw [text?_of_files hmade.files, ht] at hread
  obtain ⟨o, rfl, rfl⟩ : ∃ o, r = .ok o ∧ o.getD "" = t := by
    cases r with
    | error e => cases hread
    | ok o => exact ⟨o, rfl, Option.some.inj hread⟩
  simp only
  split
  · next hblank =>
    -- a blank cursor file reads as the 0 that it gets
    rw [LogStore.parseCursor_of_blank hblank] at hparse
    cases hparse
    refine Ensures.acts_bind (yields_replaceText _ _ v) ?_
    rintro r u ⟨rfl, rfl⟩
    exact yields_openPending hst (put_saved v st 0)
      ((put_text?_of_ne v (Ne.symm hst) _).trans htext') _ (fun _ => rfl) rfl
  · exact yields_openPending hst hsaved' htext' _ (fun _ => rfl) rfl

theorem yields_storeCursor {st : LogStore} {c : UInt64} {w : World} (hsaved : w.Saved st c) :
    Yields ipmi (acts st.cursor) w fun r v => r = .ok c ∧ w.Passed ∅ v := by
  obtain ⟨text, htext, hparse⟩ := hsaved
  refine Ensures.acts_bind (yields_readText _ w) ?_
  rintro r v ⟨hread, hp⟩
  rw [htext] at hread
  cases r with
  | error e => cases hread
  | ok o =>
    obtain rfl : o.getD "" = text := Option.some.inj hread
    simp only [hparse]
    exact .done trivial ⟨rfl, hp⟩

/-! ## The parts of a cycle that deal with files -/

theorem yields_saveCursor (s : LogSensor) (w : World) :
    Yields ipmi (acts s.saveCursor) w fun s' v =>
      s' = { s with cursorUnsaved := false } ∧
        v = w.put s.store.cursorPath (LogStore.cursorText s.cursor) :=
  yields_reply rfl (.done trivial ⟨rfl, rfl⟩)

theorem yields_pending (st : LogStore) (w : World) :
    Yields ipmi (acts st.pending) w fun r v =>
      r.toOption = (w.text? st.pendingPath).map (·.writtenLines) ∧ w.Passed ∅ v := by
  refine Ensures.acts_bind (yields_readText _ w) ?_
  rintro r v ⟨hread, hp⟩
  refine .done trivial ⟨?_, hp⟩
  rw [← hread]
  cases r <;> rfl

/-- If the buffer holds lines, the log is not listed. -/
theorem yields_loadBuffer_left (s : LogSensor) {w : World} {text : String}
    (htext : w.text? s.store.pendingPath = some text) (hleft : text.writtenLines ≠ []) :
    Yields ipmi (acts s.loadBuffer) w fun r v =>
      r = .ok (some text.writtenLines) ∧ w.Passed ∅ v := by
  refine Ensures.acts_bind (yields_pending s.store w) ?_
  rintro r v ⟨hread, hp⟩
  rw [htext] at hread
  rcases r with e | _ | ⟨line, lines⟩
  · cases hread
  · exact absurd (Option.some.inj hread).symm hleft
  · exact .done trivial ⟨congrArg (Except.ok ∘ some) (Option.some.inj hread), hp⟩

/-- If the buffer is empty, the log is listed and put into the buffer. -/
theorem yields_loadBuffer_listed (s : LogSensor) {w : World}
    (hempty : (w.text? s.store.pendingPath).map (·.writtenLines) = some []) :
    Yields ipmi (acts s.loadBuffer) w fun r v =>
      r = .ok (some w.log.writtenLines) ∧ ∃ u, w.Passed { (∅ : Tale) with listed := true } u ∧
        v = u.put s.store.pendingPath w.log := by
  refine Ensures.acts_bind (yields_pending s.store w) ?_
  rintro r v ⟨hread, hp⟩
  rw [hempty] at hread
  rcases r with e | _ | ⟨line, lines⟩
  · cases hread
  · refine yields_reply rfl ?_
    have hlisted := hp.trans (Passed.after v (.ask (.ipmi .logList)) (.ok v.log) (fun _ => rfl) rfl)
    have hlog : v.log = w.log := hp.log
    change Yields _ (acts ((s.store.replacePending v.log).bind fun _ =>
      .done (Except.ok (some v.log.writtenLines)))) (v.after (.ask (.ipmi .logList)) (.ok v.log)) _
    rw [hlog] at hlisted ⊢
    refine Ensures.acts_bind (yields_replaceText _ _ _) ?_
    rintro r u ⟨rfl, rfl⟩
    exact .done trivial ⟨rfl, _, hlisted, rfl⟩
  · cases hread

/-- The end of a cycle saves the next cursor and empties the buffer. -/
theorem yields_commit (s : LogSensor) (hst : s.store.Apart) (plan : TailPlan) {w : World}
    (hsaved : w.Saved s.store s.cursor) :
    Yields ipmi (acts (s.commit plan)) w fun s' v => s'.store = s.store ∧ s'.usage = s.usage ∧
      s'.cursor = plan.nextCursor.getD s.cursor ∧ v.Saved s.store s'.cursor ∧
      v.text? s.store.pendingPath = some "" ∧ w.Tells ∅ v := by
  unfold LogSensor.commit
  cases plan.nextCursor with
  | none =>
    change Yields _ (acts (s.store.clearPending.bind fun _ => .done s)) w _
    refine Ensures.acts_bind (yields_replaceText _ _ w) ?_
    rintro r v ⟨rfl, rfl⟩
    exact .done trivial ⟨rfl, rfl, rfl, hsaved.put hst "", put_text? _ _ _, put_tells _ _ _⟩
  | some index =>
    refine Ensures.acts_bind (yields_saveCursor { s with cursor := index } w) ?_
    rintro s' v ⟨rfl, rfl⟩
    refine Ensures.acts_bind (yields_replaceText _ _ _) ?_
    rintro r v ⟨rfl, rfl⟩
    exact .done trivial ⟨rfl, rfl, rfl, (put_saved w s.store index).put hst "", put_text? _ _ _,
      (put_tells w _ _).trans (put_tells _ _ _)⟩

/-! ## The check of the usage -/

/-- Whether a check of the usage at this time clears the log. -/
def UsageMonitor.clears (m : UsageMonitor) (ipmi : IpmiRequest → Except SourceError String)
    (now : Nat) : Bool :=
  m.isDue now && match ipmi .logInfo with
    | .error _ => false
    | .ok text =>
      match LogUsage.percentUsed? (Ipmi.parseInfo text) m.entrySize with
      | none => false
      | some used => if used ≤ m.threshold then false else (ipmi .logClear).toBool

/-- Whether a check that is due clears the log is a matter of the bound and the size of entries. -/
theorem UsageMonitor.clears_of_due {m m' : UsageMonitor} {now now' : Nat} (h : m.isDue now = true)
    (h' : m'.isDue now' = true) (hbound : m'.threshold = m.threshold)
    (hsize : m'.entrySize = m.entrySize) : m'.clears ipmi now' = m.clears ipmi now := by
  simp only [clears, h, h', hbound, hsize]

theorem yields_check (m : UsageMonitor) (now : Nat) (w : World) :
    Yields ipmi (acts (m.check now)) w fun r v =>
      (r.1 = .ok true ↔ m.clears ipmi now = true) ∧ v.files = w.files ∧
        w.Tells { (∅ : Tale) with cleared := m.clears ipmi now } v := by
  unfold UsageMonitor.check UsageMonitor.clears
  cases m.isDue now with
  | false => exact .done trivial ⟨by simp, rfl, .refl w⟩
  | true =>
    refine yields_ipmi (r := .logInfo) (by simp) ?_
    have hp := Passed.after w (.ask (.ipmi .logInfo)) (ipmi .logInfo) (fun _ => rfl) rfl
    generalize ipmi .logInfo = info at hp ⊢
    cases info with
    | error e => exact .done trivial ⟨by simp, hp.files, hp.tells⟩
    | ok text =>
      simp only [bind_done, Bool.true_and]
      cases LogUsage.percentUsed? (Ipmi.parseInfo text) m.entrySize with
      | none => exact .done trivial ⟨by simp, hp.files, hp.tells⟩
      | some used =>
        by_cases hlow : used ≤ m.threshold
        · simp only [hlow, if_true]
          exact .done trivial ⟨by simp, hp.files, hp.tells⟩
        · simp only [hlow, if_false]
          refine yields_ipmi (r := .logClear) (by simp) ?_
          have htells := fun r => hp.tells.trans (.after _ (.ask (.ipmi .logClear)) r)
          cases ipmi .logClear with
          | ok text' => exact .done trivial ⟨by simp [Except.toBool], hp.files, htells _⟩
          | error e =>
            refine .done trivial ⟨?_, hp.files, htells _⟩
            simp only [Except.toBool]
            split <;> simp

theorem yields_checkUsage (s : LogSensor) (now : Nat) {w : World} (hst : s.store.Apart)
    (hsaved : w.Saved s.store s.cursor) :
    Yields ipmi (acts (s.checkUsage now)) w fun r v =>
      r.2.store = s.store ∧ r.2.cursor = (if s.usage.clears ipmi now then 0 else s.cursor) ∧
      v.Saved s.store r.2.cursor ∧ v.text? s.store.pendingPath = w.text? s.store.pendingPath ∧
      w.Tells { (∅ : Tale) with cleared := s.usage.clears ipmi now } v := by
  refine Ensures.acts_bind (yields_check s.usage now w) ?_
  rintro ⟨r, usage⟩ v ⟨hr, hfiles, htells⟩
  have htext := text?_of_files hfiles s.store.pendingPath
  cases hclears : s.usage.clears ipmi now with
  | false =>
    rw [hclears] at hr htells
    rcases r with e | _ | _
    · exact .done trivial ⟨rfl, rfl, hsaved.of_files hfiles, htext, htells⟩
    · exact .done trivial ⟨rfl, rfl, hsaved.of_files hfiles, htext, htells⟩
    · exact absurd (hr.1 rfl) nofun
  | true =>
    rw [hclears] at hr htells
    obtain rfl : r = .ok true := hr.2 rfl
    refine Ensures.acts_bind (yields_saveCursor { s with usage, cursor := 0 } v) ?_
    rintro s' u ⟨rfl, rfl⟩
    refine .done trivial ⟨rfl, rfl, put_saved v s.store 0, ?_, ?_⟩
    · exact (put_text?_of_ne v (Ne.symm hst) _).trans htext
    · simpa using htells.trans (put_tells v _ _)

end HealthAgent
