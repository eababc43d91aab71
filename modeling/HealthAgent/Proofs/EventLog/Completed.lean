import HealthAgent.Proofs.EventLog.Coverage
/-!
# Cycles that run to their end

What a cycle has done when it gets to the check of the usage: nothing, since there were no lines to
handle, or all that its plan left it to do. Only a terminal failure can stop it in between.

Results:
* `ensures_dispatched`: handling entries, without a terminal failure, handles all of them in order and
  delivers their alerts.
* `ensures_cycled`, `ensures_polled`: a cycle up to the check of the usage, and as a whole.
* `Polled.begun`: a completed cycle has handled the entries of a beginning of its plan.
-/
namespace HealthAgent
open Program World

namespace World

/-- Nobody has asked for the clearing of the log. -/
def Unasked (w v : World) : Prop :=
  ∃ evs, v.history = w.history ++ evs ∧ ∀ ev ∈ evs, ev.asksClear = false

theorem Unasked.trans {u v w : World} (h : u.Unasked v) (h' : v.Unasked w) : u.Unasked w := by
  obtain ⟨evs, hhistory, hask⟩ := h
  obtain ⟨evs', hhistory', hask'⟩ := h'
  refine ⟨evs ++ evs', ?_, ?_⟩
  · rw [hhistory', hhistory, List.append_assoc]
  · intro ev hev
    rcases List.mem_append.1 hev with hmem | hmem
    · exact hask ev hmem
    · exact hask' ev hmem

theorem Since.unasked {u v : World} {l : Bool} {ps hs : List LogEntry} {as : List AlertRecord}
    (h : u.Since l ps hs as v) : u.Unasked v := by
  obtain ⟨evs, hhistory, hask, -⟩ := h
  exact ⟨evs, hhistory, hask⟩

theorem Passes.unasked {st : LogStore} {as : List AlertRecord} {u v : World}
    (h : u.Passes st as v) : u.Unasked v :=
  ((Since.refl u).passes h).unasked

/-- Where the entries of a cycle's plan are from: the log, listed with nothing in the buffer, or what
was left there. -/
def Source (st : LogStore) (w v : World) (listed : Bool) (es : List LogEntry) : Prop :=
  listed = true ∧ w.buffer st = [] ∧ w.entries <+: es ∧ es <+: v.entries ∨
    listed = false ∧ w.buffer st ≠ [] ∧ es = LogEntry.parseLines (w.buffer st)

/-- If the log has stayed, a plan is for the log, or for what was left in the buffer. -/
theorem Source.still {st : LogStore} {w v : World} {l : Bool} {es : List LogEntry}
    (h : w.Source st v l es) (hstill : v.entries = w.entries) :
    l = true ∧ w.buffer st = [] ∧ es = w.entries ∨
      l = false ∧ w.buffer st ≠ [] ∧ es = LogEntry.parseLines (w.buffer st) := by
  rcases h with ⟨hl, hnone, hfrom, hto⟩ | hold
  · rw [hstill] at hto
    exact .inl ⟨hl, hnone, (hfrom.eq_of_length_le hto.length_le).symm⟩
  · exact .inr hold

/-- How a cycle of a sensor has got to the check of the usage, with which result and next cursor. -/
inductive Cycled (ρ : Rules) (s : LogSensor) (w v : World) :
    Except SourceError Unit → UInt64 → Prop
  /-- There were no lines to handle, since the buffer could not be read or the log not be listed. -/
  | idle (r : Except SourceError Unit) (since : w.Since false [] [] [] v) (grown : w.Extends v)
      (buffer : v.buffer s.store = w.buffer s.store) (unread : r = .ok () → ¬ ρ.Reads)
      (unlisted : r ≠ .ok () → ¬ ρ.Reports) : Cycled ρ s w v r s.cursor
  /-- What the plan for the entries `es` left to do is done. -/
  | through {l : Bool} {es : List LogEntry} {as : List AlertRecord}
      (since : w.Since l es (TailPlan.todo es s.cursor) as v)
      (alerts : s.AlertsFor (TailPlan.todo es s.cursor) as)
      (grown : w.Extends v) (source : w.Source s.store v l es)
      (left : v.buffer s.store = [] ∨ LogEntry.parseLines (v.buffer s.store) = es) :
      Cycled ρ s w v (.ok ()) ((TailPlan.make es s.cursor).nextCursor.getD s.cursor)
  /-- A terminal failure came up after the entries `hs` had been handled. -/
  | fatal {l : Bool} {es hs : List LogEntry} {as : List AlertRecord} (e : SourceError)
      (fatal : ρ.Fatal e) (since : w.Since l es hs as v) (begun : hs <+: TailPlan.todo es s.cursor)
      (grown : w.Extends v) (source : w.Source s.store v l es) : Cycled ρ s w v (.error e) s.cursor

/-- What has been planned and handled up to the check of the usage, if the log has stayed. -/
theorem Cycled.told {ρ : Rules} {s : LogSensor} {w v : World} {cursor : UInt64}
    (h : w.Cycled ρ s v (.ok ()) cursor) (hstill : v.entries = w.entries) :
    ∃ l ps as, w.Since l ps (TailPlan.todo ps s.cursor) as v ∧
      cursor = (TailPlan.make ps s.cursor).nextCursor.getD s.cursor ∧
      (l = true ∧ ps = w.entries ∨
        l = false ∧ (ps = [] ∨ ps = LogEntry.parseLines (w.buffer s.store))) := by
  cases h with
  | idle r hsince => exact ⟨false, [], [], hsince, rfl, .inr ⟨rfl, .inl rfl⟩⟩
  | @through l es as hsince halerts hgrown hsource hleft =>
    refine ⟨l, es, as, hsince, rfl, ?_⟩
    rcases hsource.still hstill with ⟨hl, -, hall⟩ | ⟨hl, -, hold⟩
    · exact .inl ⟨hl, hall⟩
    · exact .inr ⟨hl, .inr hold⟩

/-- How a completed cycle has gone, with which outcome and what sensor for the next one. -/
inductive Polled (ρ : Rules) (s : LogSensor) (w v : World) : Outcome → LogSensor → Prop
  /-- The cycle failed before the check of the usage. -/
  | failed {e : SourceError} {cursor : UInt64} {unsaved : Bool}
      (cycled : w.Cycled ρ s v (.error e) cursor) (still : ρ.Still → v.entries = w.entries) :
      Polled ρ s w v (.ofResult (.error e)) { s with cursor, cursorUnsaved := unsaved }
  | kept {o : Outcome} {u : World} {cursor : UInt64} {unsaved : Bool} {usage : UsageMonitor}
      (cycled : w.Cycled ρ s u (.ok ()) cursor) (still : ρ.Still → u.entries = w.entries)
      (checks : u.Checks ρ s.store v false) :
      Polled ρ s w v o { s with cursor, cursorUnsaved := unsaved, usage }
  /-- The log has been cleared. -/
  | cleared {o : Outcome} {u t : World} {cursor : UInt64} {unsaved : Bool} {usage : UsageMonitor}
      (cycled : w.Cycled ρ s u (.ok ()) cursor) (still : ρ.Still → u.entries = w.entries)
      (checks : u.Checks ρ s.store t true) (reset : t.Passes s.store [] v ∨ t.Saves s.store 0 v) :
      Polled ρ s w v o { s with cursor := 0, cursorUnsaved := unsaved, usage }

end World

section
variable {ρ : Rules} (hρ : ρ.Orderly)
include hρ

/-- Without a terminal failure, all entries are handled in order and their alerts are delivered. -/
theorem ensures_dispatched (s : LogSensor) (us : List TailPlan.Unseen) (w : World) :
    Ensures ρ.Step w.Unasked (s.dispatchActs us) w fun r v =>
      (r = .ok () ∧ w.Extends v ∧ v.buffer s.store = w.buffer s.store ∧
        ∃ as, s.AlertsFor (us.map (·.entry)) as ∧ w.Since false [] (us.map (·.entry)) as v) ∨
      ∃ e hs as, r = .error e ∧ ρ.Fatal e ∧ w.Extends v ∧ w.Since false [] hs as v ∧
        hs <+: us.map (·.entry) := by
  induction us generalizing w with
  | nil =>
    exact .done (Since.refl w).unasked (.inl ⟨rfl, .refl w, rfl, [], .nil, .refl w⟩)
  | cons u us ih =>
    have hentry := ensures_dispatchEntry hρ s u w
    refine Ensures.bind (hentry.mono (fun v h => ?_) fun _ _ _ h => h) ?_
    · obtain ⟨as, hp⟩ := h
      exact hp.unasked
    intro r v hv
    rcases hv with ⟨rfl, as, halerts, hp⟩ | ⟨e, rfl, hfatal, hp⟩
    · apply Ensures.call hp.unasked
      intro a v₁ hstep
      have hm := hstep.told hρ s.store nofun
      have hsince : w.Since false [] [u.entry] as v₁ := by
        simpa using ((Since.refl w).passes hp).handles hm
      refine (ih v₁).mono (fun _ h => hsince.unasked.trans h) ?_
      intro r v₂ _ h
      have hextends₁ := hp.extends.trans hm.toExtends
      rcases h with ⟨rfl, hextends, hbuffer, as₂, halerts₂, hsince₂⟩ |
        ⟨e, hs, as₂, rfl, hfatal, hextends, hsince₂, hbegun⟩
      · refine .inl ⟨rfl, hextends₁.trans hextends, ?_, as ++ as₂, ?_, ?_⟩
        · rw [hbuffer, hm.buffer, hp.buffer]
        · exact halerts.append halerts₂
        · simpa using hsince.trans hsince₂
      · refine .inr ⟨e, u.entry :: hs, as ++ as₂, rfl, hfatal, hextends₁.trans hextends, ?_, ?_⟩
        · simpa using hsince.trans hsince₂
        · exact List.cons_prefix_cons.2 ⟨rfl, hbegun⟩
    · exact .done hp.unasked (.inr ⟨e, [], [], rfl, hfatal, hp.extends, (Since.refl w).passes hp,
        List.nil_prefix⟩)

theorem ensures_handled (s : LogSensor) (hst : s.store.Apart) (lines : List String) (w : World) :
    Ensures ρ.Step w.Unasked (s.handleActs lines) w fun r v =>
      (∃ unsaved as, r = (.ok (), { s with
          cursor := (TailPlan.make (LogEntry.parseLines lines) s.cursor).nextCursor.getD s.cursor
          cursorUnsaved := unsaved }) ∧
        w.Since false (LogEntry.parseLines lines)
          (TailPlan.todo (LogEntry.parseLines lines) s.cursor) as v ∧
        s.AlertsFor (TailPlan.todo (LogEntry.parseLines lines) s.cursor) as ∧ w.Extends v ∧
        (v.buffer s.store = w.buffer s.store ∨ v.buffer s.store = [])) ∨
      ∃ e hs as, r = (.error e, s) ∧ ρ.Fatal e ∧ w.Extends v ∧
        w.Since false (LogEntry.parseLines lines) hs as v ∧
        hs <+: TailPlan.todo (LogEntry.parseLines lines) s.cursor := by
  unfold LogSensor.handleActs
  generalize LogEntry.parseLines lines = es
  apply Ensures.call (Since.refl w).unasked
  intro a w₁ hstep
  have hm := hstep.told hρ s.store nofun
  have hplans : w.Since false ([] ++ es) [] [] w₁ := (Since.refl w).plans hm
  rw [bind_done]
  have hdispatched := ensures_dispatched hρ s (TailPlan.make es s.cursor).unseen w₁
  refine Ensures.bind (hdispatched.mono (fun _ h => hplans.unasked.trans h)
    fun _ _ hv h => And.intro (hplans.unasked.trans hv) h) ?_
  intro r v h
  obtain ⟨hunasked, hv⟩ := h
  rcases hv with ⟨rfl, hextends, hbuffer, as, halerts, hsince⟩ |
    ⟨e, hs, as, rfl, hfatal, hextends, hsince, hbegun⟩
  · have hall := hplans.trans hsince
    have hcommit := ensures_commit hρ s hst (.make es s.cursor) v
    refine Ensures.bind (hcommit.mono (fun _ h => (hall.commits h).unasked) fun _ _ _ h => h) ?_
    intro s' v' hv'
    obtain ⟨⟨unsaved, rfl⟩, hc⟩ := hv'
    refine .done (hall.commits hc).unasked (.inl ⟨unsaved, as, rfl, ?_, halerts, ?_, ?_⟩)
    · simpa [TailPlan.todo] using hall.commits hc
    · exact (hm.toExtends.trans hextends).trans hc.extends
    · rw [← hm.buffer, ← hbuffer]
      exact hc.buffer
  · have hall := hplans.trans hsince
    simp only [List.nil_append, List.append_nil, Bool.or_false] at hall
    exact .done hunasked (.inr ⟨e, hs, as, rfl, hfatal, hm.toExtends.trans hextends, hall, hbegun⟩)

theorem ensures_through (s : LogSensor) (hst : s.store.Apart) (unsaved : Bool) {l : Bool}
    {lines : List String} {w v : World} (hsince : w.Since l [] [] [] v) (hextends : w.Extends v)
    (hsource : w.Source s.store v l (LogEntry.parseLines lines))
    (hleft : v.buffer s.store = [] ∨ v.buffer s.store = lines) :
    Ensures ρ.Step w.Unasked
      (LogSensor.handleActs { s with cursorUnsaved := unsaved } lines) v fun r v =>
        ∃ cursor unsaved, r.2 = { s with cursor, cursorUnsaved := unsaved } ∧
          w.Cycled ρ s v r.1 cursor := by
  have hhandled := ensures_handled hρ { s with cursorUnsaved := unsaved } hst lines v
  refine hhandled.mono (fun _ h => hsince.unasked.trans h) ?_
  intro r v' _ h
  have hsource' : ∀ v', v.Extends v' → w.Source s.store v' l (LogEntry.parseLines lines) := by
    intro v' hextends'
    rcases hsource with ⟨hl, hnone, hfrom, hto⟩ | hold
    · exact .inl ⟨hl, hnone, hfrom, hto.trans hextends'.entries⟩
    · exact .inr hold
  rcases h with ⟨unsaved', as, rfl, hsince', halerts, hextends', hbuffer⟩ |
    ⟨e, hs, as, rfl, he, hextends', hsince', hbegun⟩
  · have hall := hsince.trans hsince'
    simp only [Bool.or_false, List.nil_append] at hall
    refine ⟨_, unsaved', rfl, .through hall halerts (hextends.trans hextends')
      (hsource' v' hextends') ?_⟩
    rcases hbuffer with hkept | hempty
    · rw [hkept]
      exact hleft.imp_right fun h => by rw [h]
    · exact .inl hempty
  · have hall := hsince.trans hsince'
    simp only [Bool.or_false, List.nil_append] at hall
    exact ⟨_, unsaved, rfl, .fatal e he hall hbegun (hextends.trans hextends')
      (hsource' v' hextends')⟩

theorem ensures_cycled (s : LogSensor) (hst : s.store.Apart) (w : World) :
    Ensures ρ.Step w.Unasked s.processActs w fun r v =>
      ∃ cursor unsaved, r.2 = { s with cursor, cursorUnsaved := unsaved } ∧
        w.Cycled ρ s v r.1 cursor := by
  have hstart : ∀ v, w.Passes s.store [] v ∨ w.Saves s.store s.cursor v →
      w.Since false [] [] [] v ∧ w.Extends v ∧ v.buffer s.store = w.buffer s.store := by
    intro v hv
    rcases hv with hp | hs
    · exact ⟨(Since.refl w).passes hp, hp.extends, hp.buffer⟩
    · refine ⟨(Since.refl w).saves hs, hs.extends, ?_⟩
      obtain ⟨bytes, hm⟩ := hs
      exact hm.buffer
  have hretry := ensures_retryCursor hρ s hst w
  refine Ensures.bind (hretry.mono (fun v h => (hstart v h).1.unasked) fun _ _ _ h => h) ?_
  intro s₁ w₁ h
  obtain ⟨⟨unsaved, rfl⟩, hv⟩ := h
  obtain ⟨hsince, hextends, hbuffer⟩ := hstart w₁ hv
  have hidle : ∀ (r : Except SourceError Unit) v, w₁.Passes s.store [] v →
      (r = .ok () → ¬ ρ.Reads) → (r ≠ .ok () → ¬ ρ.Reports) → w.Cycled ρ s v r s.cursor := by
    intro r v hp hunread hunlisted
    exact .idle r (hsince.passes hp) (hextends.trans hp.extends) (hp.buffer.trans hbuffer) hunread
      hunlisted
  have hload := ensures_loadBuffer hρ { s with cursorUnsaved := unsaved } hst w₁
  refine Ensures.bind (hload.mono ?_ fun _ _ _ h => h) ?_
  · intro v h
    rcases h with hp | ⟨lines, hf⟩
    · exact (hsince.passes hp).unasked
    · exact (hsince.fetches hf).unasked
  intro r v h
  cases h with
  | unreadable hp hcause =>
    exact .done (hsince.passes hp).unasked
      ⟨_, unsaved, rfl, hidle _ v hp (fun _ => hcause) fun h => absurd rfl h⟩
  | unlisted e hp hcause =>
    exact .done (hsince.passes hp).unasked ⟨_, unsaved, rfl, hidle _ v hp nofun fun _ => hcause⟩
  | recovered lines left nonempty hp =>
    have hold : w.buffer s.store = lines := hbuffer.symm.trans left
    refine ensures_through hρ s hst unsaved (hsince.passes hp) (hextends.trans hp.extends)
      (.inr ⟨rfl, ?_, by rw [hold]⟩) (.inr (hp.buffer.trans left))
    rw [hold]
    exact nonempty
  | fetched lines hf =>
    obtain ⟨hfrom, hto⟩ := hf.entries
    exact ensures_through hρ s hst unsaved (hsince.fetches hf) (hextends.trans hf.extends)
      (.inl ⟨rfl, hbuffer.symm.trans hf.1, hextends.entries.trans hfrom, hto⟩) hf.buffer

/-- What a cycle has done up to the check of the usage, and that a log that is still has stayed. -/
theorem ensures_cycled_still (s : LogSensor) (hst : s.store.Apart) (w : World) :
    Ensures ρ.Step w.Unasked s.processActs w fun r v =>
      ∃ cursor unsaved, r.2 = { s with cursor, cursorUnsaved := unsaved } ∧
        w.Cycled ρ s v r.1 cursor ∧ (ρ.Still → v.entries = w.entries) := by
  intro o v hrun
  obtain ⟨hunasked, hcycled⟩ := ensures_cycled hρ s hst w o v hrun
  refine ⟨hunasked, ?_⟩
  intro r ho
  obtain ⟨cursor, unsaved, hr, hc⟩ := hcycled r ho
  refine ⟨cursor, unsaved, hr, hc, ?_⟩
  intro hstill
  obtain ⟨evs, hevs, hask⟩ := hunasked
  exact hstill.entries hrun hevs fun ev hev => Event.clears_eq_false (hask ev hev)

theorem ensures_polled (s : LogSensor) (hst : s.store.Apart) (now : Nat) (w : World) :
    Ensures ρ.Step (fun _ => True) (s.pollActs now) w fun r v => w.Polled ρ s v r.1 r.2 := by
  have hcycled := ensures_cycled_still hρ s hst w
  refine Ensures.bind (hcycled.mono (fun _ _ => trivial) fun _ _ _ h => h) ?_
  intro r u h
  obtain ⟨r, s₁⟩ := r
  obtain ⟨cursor, unsaved, rfl, hcycled, hstill⟩ := h
  cases r with
  | error e => exact .done trivial (.failed hcycled hstill)
  | ok x =>
    have hcheck := ensures_checkUsage hρ { s with cursor, cursorUnsaved := unsaved } hst now u
    refine Ensures.bind (hcheck.mono (fun _ _ => trivial) fun _ _ _ h => h) ?_
    intro r v h
    obtain ⟨r, s₂⟩ := r
    rcases h with ⟨usage, rfl, hc⟩ | ⟨usage, unsaved, t, rfl, hc, hv⟩
    · exact .done trivial (.kept hcycled hstill hc)
    · exact .done trivial (.cleared hcycled hstill hc hv)

end

/-! ## What follows the handling of the entries -/

namespace World

/-- Nothing is handled or listed and no alert is handed over; the log is cleared or not. -/
def Closes (cleared : Bool) (u v : World) : Prop :=
  ∃ evs, v.history = u.history ++ evs ∧ handled evs = [] ∧ delivered evs = [] ∧
    evs.any Event.lists = false ∧ evs.any Event.clears = cleared

/-- The alerts handed over since the log was last cleared. -/
def alerted (w : World) : List AlertRecord := delivered (sinceClear w.history)

variable {ρ : Rules} {st : LogStore} {t u v : World} {cleared cleared' : Bool}

theorem Closes.trans (h : t.Closes cleared u) (h' : u.Closes cleared' v) :
    t.Closes (cleared || cleared') v := by
  obtain ⟨evs, hhistory, hhandled, hdelivered, hlists, rfl⟩ := h
  obtain ⟨evs', hhistory', hhandled', hdelivered', hlists', rfl⟩ := h'
  refine ⟨evs ++ evs', ?_, ?_, ?_, ?_, List.any_append⟩
  · rw [hhistory', hhistory, List.append_assoc]
  · rw [handled_append, hhandled, hhandled', List.append_nil]
  · rw [delivered_append, hdelivered, hdelivered', List.append_nil]
  · rw [List.any_append, hlists, hlists', Bool.or_false]

theorem Since.unclear {evs : List Event} (h : ∀ ev ∈ evs, ev.asksClear = false) :
    evs.any Event.clears = false := by
  rw [List.any_eq_false]
  intro ev hev
  rw [Event.clears_eq_false (h ev hev)]
  exact Bool.false_ne_true

theorem Since.closes {ps : List LogEntry} (h : u.Since false ps [] [] v) : u.Closes false v := by
  obtain ⟨evs, hhistory, hask, hlists, -, hhandled, hdelivered⟩ := h
  exact ⟨evs, hhistory, hhandled, hdelivered, hlists, Since.unclear hask⟩

theorem Since.settled {l : Bool} {ps hs : List LogEntry} {as : List AlertRecord}
    (h : u.Since l ps hs as v) : v.settled = u.settled ++ hs := by
  obtain ⟨evs, hhistory, hask, -, -, rfl, -⟩ := h
  unfold World.settled
  rw [hhistory, sinceClear_append _ _ fun ev hev => Event.clears_eq_false (hask ev hev),
    handled_append]

theorem Since.alerted {l : Bool} {ps hs : List LogEntry} {as : List AlertRecord}
    (h : u.Since l ps hs as v) : v.alerted = u.alerted ++ as := by
  obtain ⟨evs, hhistory, hask, -, -, -, rfl⟩ := h
  unfold World.alerted
  rw [hhistory, sinceClear_append _ _ fun ev hev => Event.clears_eq_false (hask ev hev),
    delivered_append]

theorem Closes.settled (h : u.Closes false v) : v.settled = u.settled := by
  obtain ⟨evs, hhistory, hhandled, -, -, hclears⟩ := h
  have hclear : ∀ ev ∈ evs, ev.clears = false := by simpa using hclears
  unfold World.settled
  rw [hhistory, sinceClear_append _ _ hclear, handled_append, hhandled, List.append_nil]

theorem Closes.alerted (h : u.Closes false v) : v.alerted = u.alerted := by
  obtain ⟨evs, hhistory, -, hdelivered, -, hclears⟩ := h
  have hclear : ∀ ev ∈ evs, ev.clears = false := by simpa using hclears
  unfold World.alerted
  rw [hhistory, sinceClear_append _ _ hclear, delivered_append, hdelivered, List.append_nil]

theorem Closes.reset (h : t.Passes st [] v ∨ t.Saves st 0 v) : t.Closes false v := by
  rcases h with hp | hs
  · exact ((Since.refl t).passes hp).closes
  · exact ((Since.refl t).saves hs).closes

/-- What is known of a stretch of events from its two parts. -/
theorem Since.closed {l : Bool} {ps hs : List LogEntry} {as : List AlertRecord} {evs : List Event}
    (h : t.Since l ps hs as u) (hc : u.Closes cleared v) (hevs : v.history = t.history ++ evs) :
    handled evs = hs ∧ evs.any Event.lists = l ∧ evs.any Event.clears = cleared := by
  obtain ⟨evs₁, hhistory₁, hask, rfl, -, rfl, -⟩ := h
  obtain ⟨evs₂, hhistory₂, hhandled₂, -, hlists₂, rfl⟩ := hc
  obtain rfl : evs = evs₁ ++ evs₂ := by
    rw [hhistory₂, hhistory₁, List.append_assoc] at hevs
    exact (List.append_cancel_left hevs).symm
  refine ⟨?_, ?_, ?_⟩
  · rw [handled_append, hhandled₂, List.append_nil]
  · rw [List.any_append, hlists₂, Bool.or_false]
  · rw [List.any_append, Since.unclear hask, Bool.false_or]

theorem Closes.refl (u : World) : u.Closes false u := (Since.refl u).closes

theorem Checks.closes (h : u.Checks ρ st v cleared) : u.Closes cleared v := by
  cases h with
  | passes hp => exact ((Since.refl u).passes hp).closes
  | refuses hp hr =>
    obtain ⟨e, hm⟩ := hr
    exact ((Since.refl u).passes hp).closes.trans ⟨_, hm.history, rfl, rfl, rfl, rfl⟩
  | clears hp hadmits hclears =>
    obtain ⟨text, hhistory⟩ := hclears.history
    exact ((Since.refl u).passes hp).closes.trans ⟨_, hhistory, rfl, rfl, rfl, rfl⟩

theorem Checks.buffer (h : u.Checks ρ st v cleared) : v.buffer st = u.buffer st := by
  cases h with
  | passes hp => exact hp.buffer
  | refuses hp hr =>
    obtain ⟨e, hm⟩ := hr
    exact hm.buffer.trans hp.buffer
  | clears hp hadmits hclears => exact hclears.buffer.trans hp.buffer

theorem Checks.extends (h : u.Checks ρ st v false) : u.Extends v := by
  cases h with
  | passes hp => exact hp.extends
  | refuses hp hr =>
    obtain ⟨e, hm⟩ := hr
    exact hp.extends.trans hm.toExtends

theorem Checks.sinceClear (h : u.Checks ρ st t true) : sinceClear t.history = [] := by
  cases h with
  | clears hp hadmits hclears =>
    obtain ⟨text, hhistory⟩ := hclears.history
    rw [hhistory]
    exact sinceClear_of_clears _ _ rfl

/-- After a clearing, nothing has been handled, and the buffer is what it was. -/
theorem Checks.fresh (h : u.Checks ρ st t true) (hreset : t.Passes st [] v ∨ t.Saves st 0 v) :
    v.settled = [] ∧ v.alerted = [] ∧ Increasing v.entries ∧ v.buffer st = u.buffer st ∧
      (ρ.Tidy st → LogEntry.parseLines (v.buffer st) = []) := by
  have hclose : t.Closes false v := .reset hreset
  obtain ⟨hextends, hbuffer⟩ : t.Extends v ∧ v.buffer st = t.buffer st := by
    rcases hreset with hp | hs
    · exact ⟨hp.extends, hp.buffer⟩
    · obtain ⟨bytes, hm⟩ := hs
      exact ⟨hm.toExtends, hm.buffer⟩
  have hnone := h.sinceClear
  cases h with
  | clears hp hadmits hclears =>
    refine ⟨?_, ?_, hextends.increasing ?_, ?_, ?_⟩
    · rw [hclose.settled, World.settled, hnone]
      rfl
    · rw [hclose.alerted, World.alerted, hnone]
      rfl
    · rw [hclears.entries]
      exact ⟨.nil, by simp⟩
    · rw [hbuffer, hclears.buffer, hp.buffer]
    · intro htidy
      rw [hbuffer, hclears.buffer]
      exact htidy _ _ hadmits

/-- Up to the check of the usage, the entries of a beginning of what there is to do are handled. -/
theorem Cycled.begun {s : LogSensor} {w : World} {r : Except SourceError Unit} {cursor : UInt64}
    (h : w.Cycled ρ s v r cursor) : ∃ l es hs as, w.Since l es hs as v ∧
      hs <+: TailPlan.todo es s.cursor ∧ (l = false ∧ es = [] ∨ w.Source s.store v l es) := by
  cases h with
  | idle r hsince => exact ⟨false, [], [], [], hsince, List.nil_prefix, .inl ⟨rfl, rfl⟩⟩
  | @through l es as hsince halerts hgrown hsource =>
    exact ⟨l, es, _, as, hsince, List.prefix_refl _, .inr hsource⟩
  | @fatal l es hs as e hfatal hsince hbegun hgrown hsource =>
    exact ⟨l, es, hs, as, hsince, hbegun, .inr hsource⟩

section
variable {s s' : LogSensor} {w : World} {o : Outcome} {evs : List Event}

theorem Polled.parts (h : w.Polled ρ s v o s') : ∃ u cleared r cursor, w.Cycled ρ s u r cursor ∧
    (ρ.Still → u.entries = w.entries) ∧ u.Closes cleared v := by
  cases h with
  | failed hcycled hstill => exact ⟨_, _, _, _, hcycled, hstill, .refl v⟩
  | kept hcycled hstill hchecks => exact ⟨_, _, _, _, hcycled, hstill, hchecks.closes⟩
  | cleared hcycled hstill hchecks hreset =>
    exact ⟨_, _, _, _, hcycled, hstill, hchecks.closes.trans (.reset hreset)⟩

theorem Polled.begun (hρ : ρ.Still) (h : w.Polled ρ s v o s') (hevs : v.history = w.history ++ evs) :
    ∃ es, handled evs <+: TailPlan.todo es s.cursor ∧ (es = [] ∨ es = w.entries ∨
      w.buffer s.store ≠ [] ∧ es = LogEntry.parseLines (w.buffer s.store)) := by
  obtain ⟨u, cleared, r, cursor, hcycled, hstill, hclose⟩ := h.parts
  obtain ⟨l, es, hs, as, hsince, hbegun, hsource⟩ := hcycled.begun
  obtain ⟨rfl, -⟩ := hsince.closed hclose hevs
  refine ⟨es, hbegun, hsource.imp And.right fun h => ?_⟩
  rcases h.still (hstill hρ) with ⟨-, -, hall⟩ | ⟨-, hold⟩
  · exact .inl hall
  · exact .inr hold

theorem Polled.buffer_of_lists (h : w.Polled ρ s v o s') (hevs : v.history = w.history ++ evs)
    (hlists : evs.any Event.lists = true) : w.buffer s.store = [] := by
  obtain ⟨u, cleared, r, cursor, hcycled, -, hclose⟩ := h.parts
  obtain ⟨l, es, hs, as, hsince, -, hsource⟩ := hcycled.begun
  obtain ⟨-, hlisted, -⟩ := hsince.closed hclose hevs
  rw [hlists] at hlisted
  rcases hsource with ⟨hnot, -⟩ | ⟨-, hnone, -⟩ | ⟨hnot, -⟩
  · rw [← hlisted] at hnot
    cases hnot
  · exact hnone
  · rw [← hlisted] at hnot
    cases hnot

/-- A completed cycle that has cleared the log has got to the check of the usage. -/
theorem Polled.of_clears (h : w.Polled ρ s v o s') (hevs : v.history = w.history ++ evs)
    (hclears : evs.any Event.clears = true) : ∃ u t cursor unsaved usage,
      s' = { s with cursor := 0, cursorUnsaved := unsaved, usage } ∧
        w.Cycled ρ s u (.ok ()) cursor ∧ (ρ.Still → u.entries = w.entries) ∧
          u.Checks ρ s.store t true ∧ (t.Passes s.store [] v ∨ t.Saves s.store 0 v) := by
  have hkept : ∀ {u : World} {r : Except SourceError Unit} {cursor : UInt64},
      w.Cycled ρ s u r cursor → ¬ u.Closes false v := by
    intro u r cursor hcycled hclose
    obtain ⟨l, es, hs, as, hsince, -⟩ := hcycled.begun
    obtain ⟨-, -, hnone⟩ := hsince.closed hclose hevs
    rw [hclears] at hnone
    cases hnone
  cases h with
  | failed hcycled hstill => exact absurd (.refl v) (hkept hcycled)
  | kept hcycled hstill hchecks => exact absurd hchecks.closes (hkept hcycled)
  | cleared hcycled hstill hchecks hreset => 
    exact ⟨_, _, _, _, _, rfl, hcycled, hstill, hchecks, hreset⟩

end

end World

end HealthAgent
