import HealthAgent.Proofs.EventLog.Interruption
import HealthAgent.Proofs.EventLog.Repetition
/-!
# A cycle that was interrupted

A process crashes after a cycle has put the log into the buffer and before the cycle has committed,
anywhere in the handling of the entries. What it leaves behind are its cursor file and the buffer
with the text of the log. A new process starts over these files, under the same replies of the
controller. Its first cycle finds the lines in the buffer instead of the log. They are the same
lines, so it handles the same entries with the same marks, hands over the same alerts up to
identities and times of the clock, and ends with the same buffer.

It also ends with the same cursor, but for one case. A new process has not asked for the usage of
the log yet, so its first cycle does, even if that was not due in the interrupted one. If the log is
then cleared, the cursor is 0.

Results:
* `mirrors_pollActs`: the cycle that was not interrupted, beside the one that takes it up again.
* `recovery_repeats_cycle`: the first cycle after a crash repeats the interrupted one.
* `recovery_differs`: runs where it ends with another cursor, or with lines in the buffer.
-/
namespace HealthAgent
open Program World

variable {ipmi : IpmiRequest → Except SourceError String}

/-! ## The cycle and its repetition -/

/-- What a cycle that ends with cursor `c'` in `v'` and tells `τ` repeats of the cycle that ended
with cursor `c` in `v` and told `σ`: without a listing of the log, the same entries are handled with
the same marks and the same alerts are handed over, and the buffer file ends with the same text.
Both have their cursors in their cursor files. -/
structure World.Repeats (st : LogStore) (c : UInt64) (v : World) (σ : Tale) (c' : UInt64)
    (v' : World) (τ : Tale) : Prop where
  unlisted : τ.listed = false
  handled : τ.handled = σ.handled
  alerts : List.Forall₂ (AlertRecord.Alike σ.clock τ.clock) σ.alerts τ.alerts
  buffer : v'.text? st.pendingPath = v.text? st.pendingPath
  saved : v.Saved st c
  saved' : v'.Saved st c'

/-- The handling of the log, beside the handling of the same lines from the buffer. -/
theorem mirrors_processActs (s : LogSensor) (hst : s.store.Apart)
    (hunsaved : s.cursorUnsaved = false) (usage : UsageMonitor) {w w' : World}
    (hlog : w.log.writtenLines ≠ [])
    (hempty : (w.text? s.store.pendingPath).map (·.writtenLines) = some [])
    (hleft : w'.text? s.store.pendingPath = some w.log) (hsaved : w.Saved s.store s.cursor)
    (hsaved' : w'.Saved s.store s.cursor) :
    Mirrors ipmi s.processActs w { s with usage }.processActs w' fun a v b v' =>
      b.1 = a.1 ∧ a.2.Abreast v b.2 v' ∧ a.2.store = s.store ∧ a.2.usage = s.usage ∧
        b.2.usage = usage ∧ ∃ σ τ, w.Tells ({ (∅ : Tale) with listed := true } ++ σ) v ∧
          w'.Tells τ v' ∧ σ.Alike τ ∧
          (a.1 = .ok () ∧ v.text? s.store.pendingPath = some "" ∧
              σ.handled = (TailPlan.make w.entries s.cursor).unseen ∨
            ∃ e, a.1 = .error e ∧ (Rules.replying ipmi).Fatal e ∧ a.2.cursor = s.cursor ∧
              v.text? s.store.pendingPath = some w.log) := by
  have hretry : s.retryCursor = .done s := by simp [LogSensor.retryCursor, hunsaved]
  have hretry' : { s with usage }.retryCursor = .done { s with usage } := by
    simp [LogSensor.retryCursor, hunsaved]
  unfold LogSensor.processActs
  rw [hretry, hretry']
  change Mirrors ipmi ((acts s.loadBuffer).bind _) w
    ((acts { s with usage }.loadBuffer).bind _) w' _
  refine Twins.bind (Twins.of_ensures (yields_loadBuffer_listed s hempty)
    (yields_loadBuffer_left { s with usage } hleft hlog)) ?_
  rintro _ v _ v' ⟨⟨rfl, u, hp, rfl⟩, rfl, hp'⟩
  have hput := put_text? u s.store.pendingPath w.log
  have habreast : s.Abreast (u.put s.store.pendingPath w.log) { s with usage } v' := by
    refine ⟨rfl, rfl, (hsaved.of_files hp.files).put hst w.log, hsaved'.of_files hp'.files, ?_⟩
    rw [hput, text?_of_files hp'.files]
    exact hleft
  refine (mirrors_handleActs s hst usage w.log.writtenLines habreast).mono ?_
  rintro a t b t' ⟨hr, hab, hstore, husage, husage', σ, τ, hσ, hτ, halike, hall⟩
  refine ⟨hr, hab, hstore, husage, husage', σ, τ, ?_, ?_, halike, hall.imp_right ?_⟩
  · simpa using (hp.tells.trans (put_tells u _ _)).trans hσ
  · simpa using hp'.tells.trans hτ
  · rintro ⟨e, he, hfatal, hcursor, hfiles⟩
    exact ⟨e, he, hfatal, hcursor, (text?_of_files hfiles _).trans hput⟩

/-- A cycle that lists the log, beside one that finds the same lines in the buffer. -/
theorem mirrors_pollActs (s : LogSensor) (hst : s.store.Apart) (hunsaved : s.cursorUnsaved = false)
    (usage : UsageMonitor) (hbound : usage.threshold = s.usage.threshold)
    (hsize : usage.entrySize = s.usage.entrySize) {now later : Nat}
    (hdue : usage.isDue later = true) {w w' : World} (hlog : w.log.writtenLines ≠ [])
    (hempty : (w.text? s.store.pendingPath).map (·.writtenLines) = some [])
    (hleft : w'.text? s.store.pendingPath = some w.log) (hsaved : w.Saved s.store s.cursor)
    (hsaved' : w'.Saved s.store s.cursor) :
    Mirrors ipmi (s.pollActs now) w ({ s with usage }.pollActs later) w' fun a v b v' =>
      ∃ σ τ, w.Tells σ v ∧ w'.Tells τ v' ∧ Repeats s.store a.2.cursor v σ b.2.cursor v' τ ∧
        (v'.text? s.store.pendingPath = some "" ∧
            σ.handled = (TailPlan.make w.entries s.cursor).unseen ∨
          a.1 = .shutdown ∧ b.1 = .shutdown ∧ (∃ e, (Rules.replying ipmi).Fatal e) ∧
            a.2.cursor = s.cursor ∧ v.text? s.store.pendingPath = some w.log) ∧
        (b.2.cursor = a.2.cursor ∨ s.usage.isDue now = false ∧ σ.cleared = false ∧
          τ.cleared = true ∧ b.2.cursor = 0) := by
  unfold LogSensor.pollActs
  refine Twins.bind (mirrors_processActs s hst hunsaved usage hlog hempty hleft hsaved hsaved') ?_
  rintro ⟨r, t⟩ v ⟨r', t'⟩ v' ⟨rfl, hab, hstore, husage, husage', σ, τ, hσ, hτ, halike, hall⟩
  obtain ⟨hstore', hcursor', ht, ht', hbuffer⟩ := hab
  simp only at hstore husage husage' hstore' hcursor' ht ht' hbuffer hall
  rw [hstore] at hstore' ht ht' hbuffer
  cases r' with
  | error e =>
    rcases hall with ⟨hok, -⟩ | ⟨e', he, hfatal, hkept, hleft'⟩
    · cases hok
    cases he
    have hshutdown : Outcome.ofResult (.error e) = .shutdown := by
      simp [Outcome.ofResult, hfatal.1]
    refine .done ⟨_, τ, hσ, hτ, ⟨halike.unlisted.2, halike.handled, halike.alerts, hbuffer, ht, ?_⟩,
      .inr ⟨hshutdown, hshutdown, ⟨e, hfatal⟩, hkept, hleft'⟩, .inl hcursor'⟩
    rw [hcursor']
    exact ht'
  | ok x =>
    obtain ⟨-, hempty', hhandled⟩ := hall.resolve_right (by rintro ⟨_, hok, -⟩; cases hok)
    have hcheck : Yields ipmi _ v _ := yields_checkUsage t now (hstore ▸ hst) (hstore ▸ ht)
    have hcheck' : Yields ipmi _ v' _ := yields_checkUsage t' later (hstore' ▸ hst)
      (hstore' ▸ hcursor' ▸ ht')
    refine Twins.bind (Twins.of_ensures hcheck hcheck') ?_
    rintro a u b u' ⟨⟨-, hc, hu, hbuf, htells⟩, -, hc', hu', hbuf', htells'⟩
    rw [hstore] at hu hbuf
    rw [hstore'] at hu' hbuf'
    rw [husage] at hc htells
    rw [husage'] at hc' htells'
    rw [hcursor'] at hc'
    have hsame : u'.text? s.store.pendingPath = u.text? s.store.pendingPath := by
      rw [hbuf, hbuf', hbuffer]
    have hrepeats : Repeats s.store a.2.cursor u ({ (∅ : Tale) with listed := true } ++ σ ++
        { (∅ : Tale) with cleared := s.usage.clears ipmi now }) b.2.cursor u'
        (τ ++ { (∅ : Tale) with cleared := usage.clears ipmi later }) :=
      ⟨by simp [halike.unlisted], by simpa using halike.handled, by simpa using halike.alerts, hsame,
        hu, hu'⟩
    refine .done ⟨_, _, hσ.trans htells, hτ.trans htells', hrepeats, .inl ⟨?_, ?_⟩, ?_⟩
    · rw [hbuf', hbuffer, hempty']
    · simpa using hhandled
    · cases hnow : s.usage.isDue now with
      | true =>
        left
        rw [hc, hc', UsageMonitor.clears_of_due hnow hdue hbound hsize]
      | false =>
        have hkept : s.usage.clears ipmi now = false := by simp [UsageMonitor.clears, hnow]
        cases hclears : usage.clears ipmi later with
        | false =>
          left
          rw [hc, hc', hkept, hclears]
        | true =>
          refine .inr ⟨rfl, by simp [halike.uncleared, hkept], by simp, ?_⟩
          rw [hc', hclears]
          rfl

/-- The sensor of a process that has started as `s`, at a later time between two cycles: with
another cursor, which is saved, and after the usage has been told at another time, if at all. -/
def LogSensor.later (s : LogSensor) (cursor : UInt64) (queried : Option Nat) : LogSensor :=
  { s with cursor, cursorUnsaved := false, usage := { s.usage with lastQueried := queried } }

/-- A process that has started as `s₀` begins a cycle in `w`, at the time `now`, with a log that is
not blank and a cursor that is saved. It crashes, and leaves `v` behind, after the cycle has put the
log into the buffer and before it has replaced another file. -/
structure Interrupted (ipmi : IpmiRequest → Except SourceError String) (folder : String)
    (config : LogConfig) (context : AlertContext) (zone : Calendar.Zone) (s₀ : LogSensor)
    (cursor : UInt64) (queried : Option Nat) (now : Nat) (w v : World) : Prop where
  started : ∃ u u', Runs (Rules.replying ipmi).Step
    (acts (LogSensor.start folder config context zone)) u (some (.ok s₀)) u'
  saved : w.Saved s₀.store cursor
  written : w.log.writtenLines ≠ []
  crashed : Runs (Rules.replying ipmi).Step ((s₀.later cursor queried).pollActs now) w none v
  cut : ∃ evs, v.history = w.history ++ evs ∧
    replacements evs = [(s₀.store.pendingPath, w.log.toUTF8)]

/-- **A restart repeats the interrupted cycle.** It succeeds over the same files, under the same
replies, with the cursor that the crashed process had. Its first cycle comes to an end, and it
repeats the cycle as it would have gone without the crash: it does not list the log, handles the
same entries with the same marks, hands over the same alerts up to identities and times of the
clock, and ends with the same buffer. The buffer is empty and all entries of the plan have been
handled, unless a terminal failure has ended the handling in both cycles; then the cursor has not
moved, and the buffer holds the log. Both cycles have their cursors in their cursor files, and the
cursors are the same but for one case: the check of the usage was not due in the cycle without the
crash, and the restarted process, in which it always is, clears the log. -/
theorem recovery_repeats_cycle {folder : String} {config : LogConfig} {context : AlertContext}
    {zone : Calendar.Zone} {s₀ : LogSensor} {cursor : UInt64} {queried : Option Nat} {now : Nat}
    {w v : World}
    (h : Interrupted ipmi folder config context zone s₀ cursor queried now w v)
    -- the cycle without the crash
    {o : Outcome} {s : LogSensor} {u : World} {evs : List Event}
    (hrun : Runs (Rules.replying ipmi).Step ((s₀.later cursor queried).pollActs now) w
      (some (o, s)) u) (hevs : u.history = w.history ++ evs)
    -- the world of the restart
    {x : World} (hx : x.files = v.files) (later : Nat) :
    (∃ r y, Runs (Rules.replying ipmi).Step (acts (LogSensor.start folder config context zone)) x
      (some r) y) ∧
    ∀ r y, Runs (Rules.replying ipmi).Step (acts (LogSensor.start folder config context zone)) x
        (some r) y →
      r = .ok (s₀.later cursor none) ∧
      (∃ o' t z, Runs (Rules.replying ipmi).Step ((s₀.later cursor none).pollActs later) y
        (some (o', t)) z) ∧
      ∀ o' t z fs, Runs (Rules.replying ipmi).Step ((s₀.later cursor none).pollActs later) y
          (some (o', t)) z → z.history = y.history ++ fs →
        Repeats s₀.store s.cursor u (tale evs) t.cursor z (tale fs) ∧
        (z.text? s₀.store.pendingPath = some "" ∧
            (tale evs).handled = (TailPlan.make w.entries cursor).unseen ∨
          o = .shutdown ∧ o' = .shutdown ∧ (∃ e, (Rules.replying ipmi).Fatal e) ∧
            s.cursor = cursor ∧ u.text? s₀.store.pendingPath = some w.log) ∧
        (t.cursor = s.cursor ∨ (s₀.later cursor queried).usage.isDue now = false ∧
          (tale evs).cleared = false ∧ (tale fs).cleared = true ∧ t.cursor = 0) := by
  obtain ⟨⟨u₀, u₀', hstarted⟩, hsaved, hwritten, hcrashed, ⟨before, hbefore, hcut⟩⟩ := h
  have hobey := Replies.fixed_obey ipmi
  refine ⟨Replies.exists_run hobey _ x, fun r y hstart => ?_⟩
  obtain ⟨hstore, -⟩ := ((ensures_start (Rules.replying_still ipmi).orderly folder config context
    zone u₀ _ _ hstarted).2 _ rfl).2 s₀ rfl
  have hst : s₀.store.Apart := hstore ▸ LogStore.inFolder_apart folder
  obtain ⟨hempty, hpending, hcursor⟩ := interrupted_files (s := s₀.later cursor queried) hst rfl
    hwritten hcrashed hbefore hcut
  have hxsaved : x.Saved s₀.store cursor :=
    hsaved.of_text? ((text?_of_files hx _).trans hcursor)
  have hxpending : x.text? s₀.store.pendingPath = some w.log := (text?_of_files hx _).trans hpending
  rw [hstore] at hxsaved hxpending
  obtain ⟨-, hunsaved, husage, hr, hysaved, hypending⟩ := mirrors_start folder config context zone
    u₀ hxsaved hxpending _ _ _ _ hstarted hstart s₀ rfl
  rw [← hstore] at hysaved hypending
  have hlater : { s₀ with cursor } = s₀.later cursor none := by
    unfold LogSensor.later
    rw [hunsaved, husage]
    rfl
  refine ⟨hlater ▸ hr, ?_, ?_⟩
  · obtain ⟨⟨o', t⟩, z, hpoll⟩ := Replies.exists_run hobey ((s₀.later cursor none).pollActs later) y
    exact ⟨o', t, z, hpoll⟩
  intro o' t z fs hpoll hfs
  obtain ⟨σ, τ, hσ, hτ, hrepeats, hall, hcursors⟩ := mirrors_pollActs (s₀.later cursor queried)
    hst rfl (s₀.later cursor none).usage rfl rfl rfl hwritten hempty hypending hsaved hysaved
    _ _ _ _ hrun hpoll
  obtain rfl := hσ.eq hevs
  obtain rfl := hτ.eq hfs
  exact ⟨hrepeats, hall, hcursors⟩

/-! ## Trials -/

namespace Trial

/-- A controller with one fan that reports this usage and clears its log if it is asked to. -/
def oneFan (usage : String) : IpmiRequest → Except SourceError String :=
  (replies usage "Sys Fan 2B | 30h | ok | 29.4 | 5332 RPM\n" (.ok "")).ipmi

/-- The same controller, from when the tool is missing that describes the fan. -/
def toolless : IpmiRequest → Except SourceError String
  | .sensor _ => .error (.dependencyMissing "ipmitool")
  | r => oneFan "10%" r

def crossings : String :=
  line "1" "Lower Critical going low" ++ line "2" "Lower Critical going low"

variable (ipmi : IpmiRequest → Except SourceError String) (queried : Option Nat) (n : Nat)

def launched : Machine :=
  (fresh crossings).launch (.fixed ipmi) 100 "state" config context .utc

/-- The sensor when it begins a cycle and the usage has last been told at `queried`. -/
def waiting : Machine :=
  ⟨(launched ipmi).sensor.map fun s => s.later 0 queried, (launched ipmi).world⟩

def completed : Machine := (waiting ipmi queried).cycle (.fixed ipmi) 100 20000

/-- The cycle with a crash after `n` acts. -/
def broken : Machine := (waiting ipmi queried).cycle (.fixed ipmi) n 20000

def resumed : Machine :=
  (⟨none, (broken ipmi queried n).world⟩ : Machine).launch (.fixed ipmi) 100 "state" config context
    .utc

def recovered : Machine := (resumed ipmi queried n).cycle (.fixed ipmi) 100 30000

/-- The crash falls between the filling of the buffer and the commit. -/
def Breaks : Prop :=
  (launched ipmi).sensor.isSome = true ∧
    (launched ipmi).world.text? (LogStore.inFolder "state").cursorPath =
      some (LogStore.cursorText 0) ∧
    (launched ipmi).world.log = crossings ∧
    (waiting ipmi queried).outcome (.fixed ipmi) n 20000 = none ∧
    replacements ((waiting ipmi queried).eventsTo (broken ipmi queried n)) =
      [((LogStore.inFolder "state").pendingPath, crossings.toUTF8)]

instance : Decidable (Breaks ipmi queried n) := inferInstanceAs (Decidable (_ ∧ _))

theorem Breaks.interrupted {ipmi : IpmiRequest → Except SourceError String} {queried : Option Nat}
    {n : Nat} (h : Breaks ipmi queried n) :
    ∃ s₀, (waiting ipmi queried).sensor = some (s₀.later 0 queried) ∧
      Interrupted ipmi "state" config context .utc s₀ 0 queried 20000 (launched ipmi).world
        (broken ipmi queried n).world := by
  obtain ⟨hstarted, hcursor, hlog, hcrash, hcut⟩ := h
  have hobey := Replies.fixed_obey ipmi
  have hstill := Rules.replying_still ipmi
  obtain ⟨s₀, hs₀, hstart⟩ := Machine.exists_started hobey hstarted
  obtain ⟨hstore, -⟩ := ((ensures_start hstill.orderly "state" config context .utc _ _ _ hstart).2 _
    rfl).2 s₀ rfl
  have hwaiting : (waiting ipmi queried).sensor = some (s₀.later 0 queried) :=
    congrArg (Option.map fun s : LogSensor => s.later 0 queried) hs₀
  have hcrashed := Machine.exists_cut hobey hwaiting hcrash
  have hevs := List.prefix_iff_eq_append.1 (runs_history hstill.orderly hcrashed)
  have hwritten : crossings.writtenLines ≠ [] := by decide +kernel
  refine ⟨s₀, hwaiting, ⟨_, _, hstart⟩, ⟨_, ?_, LogStore.parseCursor_cursorText 0⟩, ?_, hcrashed,
    _, hevs.symm, ?_⟩
  · rw [hstore]
    exact hcursor
  · rw [hlog]
    exact hwritten
  · rw [hstore, hlog]
    exact hcut

/-- The interrupted cycle ends without the crash as `s`, and the first cycle after a restart, in
which the sensor is `s₁`, ends as `t`. -/
structure Repeated (s s₁ t : LogSensor) : Prop where
  interrupted : ∃ s₀, Interrupted ipmi "state" config context .utc s₀ 0 queried 20000
    (launched ipmi).world (broken ipmi queried n).world ∧
    ∃ o, Runs (Rules.replying ipmi).Step ((s₀.later 0 queried).pollActs 20000)
      (launched ipmi).world (some (o, s)) (completed ipmi queried).world
  restart : Runs (Rules.replying ipmi).Step (acts (LogSensor.start "state" config context .utc))
    (broken ipmi queried n).world (some (.ok s₁)) (resumed ipmi queried n).world
  first : ∃ o, Runs (Rules.replying ipmi).Step (s₁.pollActs 30000) (resumed ipmi queried n).world
    (some (o, t)) (recovered ipmi queried n).world

theorem Breaks.repeated {ipmi : IpmiRequest → Except SourceError String} {queried : Option Nat}
    {n : Nat} (h : Breaks ipmi queried n) {o o' : Outcome}
    (hwhole : (waiting ipmi queried).outcome (.fixed ipmi) 100 20000 = some o)
    (hrestart : (resumed ipmi queried n).sensor.isSome = true)
    (hfirst : (resumed ipmi queried n).outcome (.fixed ipmi) 100 30000 = some o') :
    ∃ s s₁ t, Repeated ipmi queried n s s₁ t ∧ (completed ipmi queried).sensor = some s ∧
      (recovered ipmi queried n).sensor = some t := by
  have hobey := Replies.fixed_obey ipmi
  have horderly := (Rules.replying_still ipmi).orderly
  obtain ⟨s₀, hs₀, hinterrupted⟩ := h.interrupted
  obtain ⟨s', s, hs', hs, hrun, -⟩ := Machine.exists_completed horderly hobey hwhole
  obtain rfl : s₀.later 0 queried = s' := Option.some.inj (hs₀.symm.trans hs')
  obtain ⟨s₁, hs₁, hstart⟩ := Machine.exists_started hobey hrestart
  obtain ⟨s₁', t, hs₁', ht, hpoll, -⟩ := Machine.exists_completed horderly hobey hfirst
  obtain rfl : s₁ = s₁' := Option.some.inj (hs₁.symm.trans hs₁')
  exact ⟨s, s₁, t, ⟨⟨s₀, hinterrupted, o, hrun⟩, hstart, o', hpoll⟩, hs, ht⟩

end Trial

/-- A cycle that is interrupted between its two entries is repeated as a whole: both are handled and
both alerts are handed over. -/
theorem recovery_repeats_cycle_between : ∃ s₀ s evs,
    Interrupted (Trial.oneFan "10%") "state" Trial.config Trial.context .utc s₀ 0 none 20000
      (Trial.launched (Trial.oneFan "10%")).world (Trial.broken (Trial.oneFan "10%") none 9).world ∧
    Runs (Rules.replying (Trial.oneFan "10%")).Step ((s₀.later 0 none).pollActs 20000)
      (Trial.launched (Trial.oneFan "10%")).world (some (.proceed, s))
      (Trial.completed (Trial.oneFan "10%") none).world ∧
    (Trial.completed (Trial.oneFan "10%") none).world.history =
      (Trial.launched (Trial.oneFan "10%")).world.history ++ evs ∧
    (tale evs).alerts.length = 2 ∧ s.cursor = 2 ∧
    ∀ r y, Runs (Rules.replying (Trial.oneFan "10%")).Step
        (acts (LogSensor.start "state" Trial.config Trial.context .utc))
        (Trial.broken (Trial.oneFan "10%") none 9).world (some r) y →
      r = .ok (s₀.later 0 none) ∧
      ∀ o t z fs, Runs (Rules.replying (Trial.oneFan "10%")).Step
          ((s₀.later 0 none).pollActs 30000) y (some (o, t)) z → z.history = y.history ++ fs →
        (tale fs).listed = false ∧ (tale fs).handled = (tale evs).handled ∧
          (tale fs).alerts.length = 2 ∧ t.cursor = 2 ∧ z.Saved s₀.store 2 := by
  have hends : Trial.Breaks (Trial.oneFan "10%") none 9 ∧
      (Trial.waiting (Trial.oneFan "10%") none).outcome (.fixed (Trial.oneFan "10%")) 100 20000 =
        some .proceed ∧
      (Trial.completed (Trial.oneFan "10%") none).sensor.map (·.cursor) = some 2 ∧
      (tale ((Trial.waiting (Trial.oneFan "10%") none).eventsTo
        (Trial.completed (Trial.oneFan "10%") none))).alerts.length = 2 := by decide +kernel
  obtain ⟨hbreaks, hwhole, hmap, halerts⟩ := hends
  obtain ⟨s₀, hs₀, hinterrupted⟩ := hbreaks.interrupted
  obtain ⟨s', s, hs', hs, hrun, hevs⟩ := Machine.exists_completed
    (Rules.replying_still _).orderly (Replies.fixed_obey _) hwhole
  obtain rfl : s₀.later 0 none = s' := Option.some.inj (hs₀.symm.trans hs')
  have hcursor : s.cursor = 2 := by
    rw [Trial.completed, hs] at hmap
    exact Option.some.inj hmap
  refine ⟨s₀, s, _, hinterrupted, hrun, hevs, halerts, hcursor, ?_⟩
  intro r y hstart
  obtain ⟨-, hall⟩ := recovery_repeats_cycle hinterrupted hrun hevs rfl 30000
  obtain ⟨hr, -, hpolls⟩ := hall r y hstart
  refine ⟨hr, fun o t z fs hpoll hfs => ?_⟩
  obtain ⟨hrepeats, -, hcursors⟩ := hpolls o t z fs hpoll hfs
  have ht : t.cursor = 2 := by
    rcases hcursors with heq | ⟨hdue, -⟩
    · exact heq.trans hcursor
    · cases hdue
  exact ⟨hrepeats.unlisted, hrepeats.handled, hrepeats.alerts.length_eq.symm.trans halerts, ht,
    ht ▸ hrepeats.saved'⟩

/-- Two cycles whose repetition does not end with the same cursor and an empty buffer. In the first,
the usage of the log was told 20 seconds ago, so it is not asked for, and the cycle ends with the
cursor 2; the restarted process asks, clears the log and ends with the cursor 0. In the second, the
tool is missing that describes the fan, so neither cycle commits, and the buffer keeps its lines. -/
theorem recovery_differs :
    (∃ s s₁ t, Trial.Repeated (Trial.oneFan "95%") (some 0) 9 s s₁ t ∧ s.cursor = 2 ∧
      (Trial.completed (Trial.oneFan "95%") (some 0)).world.cursor (.inFolder "state") = 2 ∧
      t.cursor = 0 ∧
      (Trial.recovered (Trial.oneFan "95%") (some 0) 9).world.cursor (.inFolder "state") = 0) ∧
    ∃ s s₁ t, Trial.Repeated Trial.toolless none 4 s s₁ t ∧
      (Trial.completed Trial.toolless none).world.buffer (.inFolder "state") ≠ [] ∧
      (Trial.recovered Trial.toolless none 4).world.buffer (.inFolder "state") ≠ [] := by
  constructor
  · have hends : Trial.Breaks (Trial.oneFan "95%") (some 0) 9 ∧
        (Trial.waiting (Trial.oneFan "95%") (some 0)).outcome
          (.fixed (Trial.oneFan "95%")) 100 20000 = some .proceed ∧
        (Trial.resumed (Trial.oneFan "95%") (some 0) 9).sensor.isSome = true ∧
        (Trial.resumed (Trial.oneFan "95%") (some 0) 9).outcome
          (.fixed (Trial.oneFan "95%")) 100 30000 = some .proceed ∧
        (Trial.completed (Trial.oneFan "95%") (some 0)).sensor.map (·.cursor) = some 2 ∧
        (Trial.completed (Trial.oneFan "95%") (some 0)).world.cursor (.inFolder "state") = 2 ∧
        (Trial.recovered (Trial.oneFan "95%") (some 0) 9).sensor.map (·.cursor) = some 0 ∧
        (Trial.recovered (Trial.oneFan "95%") (some 0) 9).world.cursor (.inFolder "state") = 0 := by
      decide +kernel
    obtain ⟨hbreaks, hwhole, hrestart, hfirst, hmap, hfile, hmap', hfile'⟩ := hends
    obtain ⟨s, s₁, t, hrepeated, hs, ht⟩ := hbreaks.repeated hwhole hrestart hfirst
    rw [hs] at hmap
    rw [ht] at hmap'
    exact ⟨s, s₁, t, hrepeated, Option.some.inj hmap, hfile, Option.some.inj hmap', hfile'⟩
  · have hends : Trial.Breaks Trial.toolless none 4 ∧
        (Trial.waiting Trial.toolless none).outcome (.fixed Trial.toolless) 100 20000 =
          some .shutdown ∧
        (Trial.resumed Trial.toolless none 4).sensor.isSome = true ∧
        (Trial.resumed Trial.toolless none 4).outcome (.fixed Trial.toolless) 100 30000 =
          some .shutdown ∧
        (Trial.completed Trial.toolless none).world.buffer (.inFolder "state") ≠ [] ∧
        (Trial.recovered Trial.toolless none 4).world.buffer (.inFolder "state") ≠ [] := by
      decide +kernel
    obtain ⟨hbreaks, hwhole, hrestart, hfirst, hleft⟩ := hends
    obtain ⟨s, s₁, t, hrepeated, -, -⟩ := hbreaks.repeated hwhole hrestart hfirst
    exact ⟨s, s₁, t, hrepeated, hleft⟩

end HealthAgent
