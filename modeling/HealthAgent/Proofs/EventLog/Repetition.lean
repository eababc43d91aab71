import HealthAgent.Proofs.Enclosure.Cycle
import HealthAgent.Proofs.EventLog.Completed
import HealthAgent.Proofs.EventLog.FixedReplies
import HealthAgent.Proofs.EventLog.Start
import HealthAgent.Proofs.Program.Twins
/-!
# Handling the same lines twice

Two sensors that differ in nothing but the state of their usage monitors, with the same lines to
handle and the same replies of the controller, handle the same entries and hand over the same
alerts. What chance can make differ are the identities of the alerts, which end in a random text,
and the time of an alert whose entry does not tell one, which then is the clock's.

The lemmas go along both runs at once (`Mirrors`), each ending with the tales of both
(`Tale.Alike`), and where the cursor moves, with the files of both (`LogSensor.Abreast`).

Results:
* `mirrors_dispatchEntry`, `mirrors_dispatchActs`: the handling of entries, side by side.
* `mirrors_handleActs`: the lines of a cycle, from the plan to the emptied buffer.
* `mirrors_start`: a start over files that can be read, beside one that has succeeded.
-/
namespace HealthAgent
open Program World

/-! ## What chance cannot change -/

/-- The same alert up to its identity, and up to its time if both times are the clock's. -/
def AlertRecord.Alike (told told' : List String) (a b : AlertRecord) : Prop :=
  a.timeless = b.timeless ∧ (a.info.eventTime = b.info.eventTime ∨
    a.info.eventTime ∈ told ∧ b.info.eventTime ∈ told')

theorem AlertRecord.Alike.mono {told told' more more' : List String} {a b : AlertRecord}
    (h : a.Alike told told' b) (hmore : told ⊆ more) (hmore' : told' ⊆ more') :
    a.Alike more more' b :=
  ⟨h.1, h.2.imp_right fun ⟨ha, hb⟩ => ⟨hmore ha, hmore' hb⟩⟩

/-- The same entries have been handled and the same alerts handed over, and the log has been left
alone. -/
structure Tale.Alike (σ τ : Tale) : Prop where
  handled : τ.handled = σ.handled
  alerts : List.Forall₂ (AlertRecord.Alike σ.clock τ.clock) σ.alerts τ.alerts
  unlisted : σ.listed = false ∧ τ.listed = false
  uncleared : σ.cleared = false ∧ τ.cleared = false

namespace Tale.Alike

variable {σ σ' τ τ' : Tale}

theorem empty : Tale.Alike ∅ ∅ := ⟨rfl, .nil, ⟨rfl, rfl⟩, ⟨rfl, rfl⟩⟩

theorem append (h : σ.Alike τ) (h' : σ'.Alike τ') : (σ ++ σ').Alike (τ ++ τ') where
  handled := by rw [handled_append, handled_append, h.handled, h'.handled]
  alerts := by
    have hfirst := h.alerts.imp fun _ _ ha => ha.mono (List.subset_append_left σ.clock σ'.clock)
      (List.subset_append_left τ.clock τ'.clock)
    have hsecond := h'.alerts.imp fun _ _ ha => ha.mono (List.subset_append_right σ.clock σ'.clock)
      (List.subset_append_right τ.clock τ'.clock)
    exact List.rel_append hfirst hsecond
  unlisted := by simp [h.unlisted, h'.unlisted]
  uncleared := by simp [h.uncleared, h'.uncleared]

end Tale.Alike

/-! ## Entries -/

/-- Whenever both programs come to their end under these replies, the ends are related. -/
abbrev Mirrors {α β : Type} (ipmi : IpmiRequest → Except SourceError String) (p : ActProgram α)
    (w : World) (q : ActProgram β) (v : World) (R : α → World → β → World → Prop) : Prop :=
  Twins (Rules.replying ipmi).Step p w q v R

variable {ipmi : IpmiRequest → Except SourceError String}

theorem mirrors_reply {α β : Type} {r : IpmiRequest} (hlist : r ≠ .logList)
    {k : Except SourceError String → ActProgram α} {k' : Except SourceError String → ActProgram β}
    {w w' : World} {R : α → World → β → World → Prop}
    (h : Mirrors ipmi (k (ipmi r)) (w.after (.ask (.ipmi r)) (ipmi r)) (k' (ipmi r))
      (w'.after (.ask (.ipmi r)) (ipmi r)) R) :
    Mirrors ipmi (.call (.ask (.ipmi r)) k) w (.call (.ask (.ipmi r)) k') w' R := by
  refine Twins.call ?_
  intro a v a' v' hstep hstep'
  obtain ⟨rfl, hreply⟩ := hstep.replying
  obtain ⟨rfl, hreply'⟩ := hstep'.replying
  obtain rfl : a = ipmi r := (hreply rfl).trans (Replies.fixed_ipmi hlist w)
  obtain rfl : a' = ipmi r := (hreply' rfl).trans (Replies.fixed_ipmi hlist w')
  exact h

theorem mirrors_describe (d : Device) (sensorId : String) (w w' : World) :
    Mirrors ipmi (acts (d.describe sensorId)) w (acts (d.describe sensorId)) w'
      fun r v r' v' => r' = r ∧ w.Passed ∅ v ∧ w'.Passed ∅ v' := by
  have hp : ∀ (u : World) reply,
      u.Passed ∅ (u.after (.ask (.ipmi (d.request sensorId))) reply) := by
    intro u reply
    cases d <;> exact Passed.after u _ reply (fun _ => rfl) rfl
  rw [d.describe_eq]
  refine mirrors_reply (by cases d <;> simp [Device.request]) ?_
  exact .done ⟨rfl, hp w _, hp w' _⟩

/-- Both look at the clock if the entry tells no time. -/
theorem mirrors_eventTimeOf (zone : Calendar.Zone) (entry : LogEntry) (w w' : World) :
    Mirrors ipmi (acts (Device.eventTimeOf zone entry)) w (acts (Device.eventTimeOf zone entry)) w'
      fun t v t' v' => ∃ told told', w.Passed { (∅ : Tale) with clock := told } v ∧
        w'.Passed { (∅ : Tale) with clock := told' } v' ∧ (t = t' ∨ t ∈ told ∧ t' ∈ told') := by
  unfold Device.eventTimeOf
  split
  · exact .done ⟨[], [], .refl w, .refl w', .inl rfl⟩
  · refine Twins.call ?_
    intro t v t' v' hstep hstep'
    obtain ⟨rfl, -⟩ := hstep.replying
    obtain ⟨rfl, -⟩ := hstep'.replying
    exact .done ⟨[t], [t'], Passed.after w _ t (fun _ => rfl) rfl,
      Passed.after w' _ t' (fun _ => rfl) rfl, .inr ⟨List.mem_singleton_self t,
        List.mem_singleton_self t'⟩⟩

/-- Two drafts differ at most in a time of the clock. -/
theorem mirrors_draft (d : Device) (zone : Calendar.Zone) (entry : LogEntry) (sensorId : String)
    (terminal : Bool) (w w' : World) :
    Mirrors ipmi (acts (d.draft zone entry sensorId terminal)) w
      (acts (d.draft zone entry sensorId terminal)) w' fun r v r' v' => ∃ told told',
        w.Passed { (∅ : Tale) with clock := told } v ∧
        w'.Passed { (∅ : Tale) with clock := told' } v' ∧
        (r' = r ∧ (∀ draft, r ≠ .ok (some draft)) ∨ ∃ kind severity props t t',
          r = .ok (some (d.draftOf entry sensorId terminal kind severity t props)) ∧
          r' = .ok (some (d.draftOf entry sensorId terminal kind severity t' props)) ∧
          (t = t' ∨ t ∈ told ∧ t' ∈ told')) := by
  unfold Device.draft
  split
  · exact .done ⟨[], [], .refl w, .refl w', .inl ⟨rfl, nofun⟩⟩
  · next kind severity _ =>
    simp only [bind_eq, acts_bind]
    refine Twins.bind (mirrors_describe d sensorId w w') ?_
    rintro _ v r v' ⟨rfl, hp, hp'⟩
    cases r with
    | error e => exact .done ⟨[], [], hp, hp', .inl ⟨rfl, nofun⟩⟩
    | ok props =>
      simp only [acts_bind]
      refine Twins.bind (mirrors_eventTimeOf zone entry v v') ?_
      rintro t u t' u' ⟨told, told', hu, hu', htime⟩
      have hall := hp.trans hu
      have hall' := hp'.trans hu'
      rw [Tale.empty_append] at hall hall'
      exact .done ⟨told, told', hall, hall',
        .inr ⟨kind, severity, props, t, t', rfl, rfl, htime⟩⟩

theorem AlertContext.alike_assemble (context : AlertContext) (d : Device) (entry : LogEntry)
    (sensorId : String) (terminal : Bool) (kind : AlertKind) (severity : Severity)
    (props : SensorProps) {salt salt' t t' : String} {told told' : List String}
    (htime : t = t' ∨ t ∈ told ∧ t' ∈ told') :
    (context.assemble salt (d.draftOf entry sensorId terminal kind severity t props)).Alike told
      told' (context.assemble salt' (d.draftOf entry sensorId terminal kind severity t' props)) :=
  ⟨rfl, htime⟩

theorem mirrors_dispatchEntry (s : LogSensor) (u : TailPlan.Unseen) (w w' : World) :
    Mirrors ipmi (acts (s.dispatchEntry u)) w (acts (s.dispatchEntry u)) w' fun r v r' v' =>
      r' = r ∧ ∃ σ τ, w.Passed σ v ∧ w'.Passed τ v' ∧ σ.Alike τ ∧ σ.handled = [] := by
  have halike : ∀ told told', Tale.Alike { (∅ : Tale) with clock := told }
      { (∅ : Tale) with clock := told' } := fun _ _ => ⟨rfl, .nil, ⟨rfl, rfl⟩, ⟨rfl, rfl⟩⟩
  unfold LogSensor.dispatchEntry
  split
  · exact .done ⟨rfl, ∅, ∅, .refl w, .refl w', .empty, rfl⟩
  · next device sensorId _ =>
    simp only [bind_eq, acts_bind]
    refine Twins.bind (mirrors_draft device s.zone u.entry sensorId u.terminal w w') ?_
    rintro r v r' v' ⟨told, told', hp, hp', ⟨rfl, hnone⟩ | ⟨kind, severity, props, t, t', rfl, rfl,
      htime⟩⟩
    · rcases r' with e | _ | draft
      · exact .done ⟨rfl, _, _, hp, hp', halike told told', rfl⟩
      · exact .done ⟨rfl, _, _, hp, hp', halike told told', rfl⟩
      · exact absurd rfl (hnone draft)
    · refine Twins.call ?_
      intro salt v₁ salt' v₁' hstep hstep'
      obtain ⟨rfl, -⟩ := hstep.replying
      obtain ⟨rfl, -⟩ := hstep'.replying
      refine Twins.call ?_
      intro taken v₂ taken' v₂' hstep hstep'
      obtain ⟨rfl, -⟩ := hstep.replying
      obtain ⟨rfl, -⟩ := hstep'.replying
      have hq := (hp.trans (Passed.after v _ salt (fun _ => rfl) rfl)).trans
        (Passed.after _ (.ask (.deliver (s.context.assemble salt (device.draftOf u.entry sensorId
          u.terminal kind severity t props)))) taken (fun _ => rfl) rfl)
      have hq' := (hp'.trans (Passed.after v' _ salt' (fun _ => rfl) rfl)).trans
        (Passed.after _ (.ask (.deliver (s.context.assemble salt' (device.draftOf u.entry sensorId
          u.terminal kind severity t' props)))) taken' (fun _ => rfl) rfl)
      refine .done ⟨rfl, _, _, hq, hq', ⟨rfl, ?_, ⟨rfl, rfl⟩, ⟨rfl, rfl⟩⟩, rfl⟩
      refine .cons ?_ .nil
      exact (s.context.alike_assemble device u.entry sensorId u.terminal kind severity props
        htime).mono (by simp) (by simp)

theorem mirrors_dispatchActs (s : LogSensor) (us : List TailPlan.Unseen) (w w' : World) :
    Mirrors ipmi (s.dispatchActs us) w (s.dispatchActs us) w' fun r v r' v' =>
      r' = r ∧ ∃ σ τ, w.Passed σ v ∧ w'.Passed τ v' ∧ σ.Alike τ ∧
        (r = .ok () → σ.handled = us) := by
  induction us generalizing w w' with
  | nil => exact .done ⟨rfl, ∅, ∅, .refl w, .refl w', .empty, fun _ => rfl⟩
  | cons u us ih =>
    refine Twins.bind (mirrors_dispatchEntry s u w w') ?_
    rintro _ v r v' ⟨rfl, σ, τ, hp, hp', halike, hnone⟩
    cases r with
    | error e => exact .done ⟨rfl, σ, τ, hp, hp', halike, nofun⟩
    | ok x =>
      refine Twins.call ?_
      intro a v₁ a' v₁' hstep hstep'
      obtain ⟨rfl, -⟩ := hstep.replying
      obtain ⟨rfl, -⟩ := hstep'.replying
      have hq := hp.trans (Passed.after v (.handled u) a (fun _ => rfl) rfl)
      have hq' := hp'.trans (Passed.after v' (.handled u) a' (fun _ => rfl) rfl)
      have hhandled : Tale.Alike (tale [⟨.handled u, a⟩]) (tale [⟨.handled u, a'⟩]) :=
        ⟨rfl, .nil, ⟨rfl, rfl⟩, ⟨rfl, rfl⟩⟩
      refine (ih _ _).mono ?_
      rintro r t r' t' ⟨rfl, σ', τ', ht, ht', halike', hall⟩
      refine ⟨rfl, _, _, hq.trans ht, hq'.trans ht', (halike.append hhandled).append halike', ?_⟩
      intro hr
      simp [hnone, tale, Event.unseen?, hall hr]

/-! ## The lines of a cycle -/

/-- Two sensors are equally far: they have the same cursor, which is saved, and their buffer files
hold the same text. -/
structure LogSensor.Abreast (s : LogSensor) (w : World) (t : LogSensor) (v : World) : Prop where
  store : t.store = s.store
  cursor : t.cursor = s.cursor
  saved : w.Saved s.store s.cursor
  saved' : v.Saved s.store s.cursor
  buffer : v.text? s.store.pendingPath = w.text? s.store.pendingPath

theorem LogSensor.dispatchActs_usage (s : LogSensor) (usage : UsageMonitor)
    (us : List TailPlan.Unseen) : { s with usage }.dispatchActs us = s.dispatchActs us := by
  induction us with
  | nil => rfl
  | cons u us ih =>
    unfold LogSensor.dispatchActs
    rw [ih]
    rfl

/-- Two sensors that are equally far handle the same lines. If a terminal failure stops them, the files
and the cursors stay as they were. -/
theorem mirrors_handleActs (s : LogSensor) (hst : s.store.Apart) (usage : UsageMonitor)
    (lines : List String) {w w' : World} (h : s.Abreast w { s with usage } w') :
    Mirrors ipmi (s.handleActs lines) w ({ s with usage }.handleActs lines) w' fun a v b v' =>
      b.1 = a.1 ∧ a.2.Abreast v b.2 v' ∧ a.2.store = s.store ∧ a.2.usage = s.usage ∧
        b.2.usage = usage ∧ ∃ σ τ, w.Tells σ v ∧ w'.Tells τ v' ∧ σ.Alike τ ∧
          (a.1 = .ok () ∧ v.text? s.store.pendingPath = some "" ∧
              σ.handled = (TailPlan.make (LogEntry.parseLines lines) s.cursor).unseen ∨
            ∃ e, a.1 = .error e ∧ (Rules.replying ipmi).Fatal e ∧ a.2.cursor = s.cursor ∧
              v.files = w.files) := by
  unfold LogSensor.handleActs
  simp only
  generalize TailPlan.make (LogEntry.parseLines lines) s.cursor = plan
  refine Twins.call ?_
  intro a w₁ a' w₁' hstep hstep'
  obtain ⟨rfl, -⟩ := hstep.replying
  obtain ⟨rfl, -⟩ := hstep'.replying
  have hp := Passed.after w (.plan (LogEntry.parseLines lines) plan) a (fun _ => rfl) rfl
  have hp' := Passed.after w' (.plan (LogEntry.parseLines lines) plan) a' (fun _ => rfl) rfl
  rw [bind_done, bind_done, s.dispatchActs_usage usage]
  refine Twins.bind ((mirrors_dispatchActs s plan.unseen _ _).and (.of_left
    (ensures_dispatched (Rules.replying_still ipmi).orderly s plan.unseen _))) ?_
  rintro _ v r v' ⟨⟨rfl, σ, τ, hq, hq', halike, hall⟩, hfatal⟩
  have hv := hp.trans hq
  have hv' := hp'.trans hq'
  rw [show tale _ = ∅ from rfl, Tale.empty_append] at hv hv'
  have hsaved := h.saved.of_files hv.files
  have hsaved' := h.saved'.of_files hv'.files
  cases r with
  | error e =>
    have hbuffer : v'.text? s.store.pendingPath = v.text? s.store.pendingPath := by
      rw [text?_of_files hv.files, text?_of_files hv'.files, h.buffer]
    refine .done ⟨rfl, ⟨rfl, rfl, hsaved, hsaved', hbuffer⟩, rfl, rfl, rfl, σ, τ, hv.tells,
      hv'.tells, halike, .inr ⟨e, rfl, ?_, rfl, hv.files⟩⟩
    rcases hfatal with ⟨hok, -⟩ | ⟨e', _, _, he, hfatal, -⟩
    · cases hok
    · cases he
      exact hfatal
  | ok x =>
    refine Twins.bind (Twins.of_ensures (yields_commit s hst plan hsaved)
      (yields_commit { s with usage } hst plan hsaved')) ?_
    rintro t u t' u' ⟨⟨hstore, husage, hcursor, hu, hempty, htells⟩,
      hstore', husage', hcursor', hu', hempty', htells'⟩
    have hsame : t'.cursor = t.cursor := hcursor'.trans hcursor.symm
    refine .done ⟨rfl, ?_, hstore, husage, husage', σ, τ, ?_, ?_, halike,
      .inl ⟨rfl, hempty, hall rfl⟩⟩
    · refine ⟨hstore'.trans hstore.symm, hsame, ?_, ?_, ?_⟩
      · rw [hstore]
        exact hu
      · rw [hstore, ← hsame]
        exact hu'
      · rw [hstore]
        exact hempty'.trans hempty.symm
    · simpa using hv.tells.trans htells
    · simpa using hv'.tells.trans htells'

/-! ## Two starts -/

theorem mirrors_loadTypes (ds : List Device) (m : SensorNumbers) (w w' : World) :
    Mirrors ipmi (acts (SensorNumbers.loadTypes ds m)) w (acts (SensorNumbers.loadTypes ds m)) w'
      fun r _ r' v' => r' = r ∧ v'.files = w'.files := by
  induction ds generalizing m w w' with
  | nil => exact .done ⟨rfl, rfl⟩
  | cons d ds ih =>
    refine mirrors_reply (r := .sensorsOfType d.name) (by simp) ?_
    cases ipmi (.sensorsOfType d.name) with
    | ok listing => exact ih _ _ _
    | error e =>
      simp only [bind_done]
      split
      · exact .done ⟨rfl, rfl⟩
      · exact ih _ _ _

/-- A start over files that can be read, beside a start that has succeeded. -/
theorem mirrors_start (folder : String) (config : LogConfig) (context : AlertContext)
    (zone : Calendar.Zone) {c : UInt64} {text : String} (u : World) {w : World}
    (hsaved : w.Saved (.inFolder folder) c)
    (htext : w.text? (LogStore.inFolder folder).pendingPath = some text) :
    Mirrors ipmi (acts (LogSensor.start folder config context zone)) u
      (acts (LogSensor.start folder config context zone)) w fun r _ r' v => ∀ s, r = .ok s →
        s.store = .inFolder folder ∧ s.cursorUnsaved = false ∧ s.usage = .ofConfig config ∧
        r' = .ok { s with cursor := c } ∧ v.Saved (.inFolder folder) c ∧
        v.text? (LogStore.inFolder folder).pendingPath = some text := by
  have hopened := ensures_openIn (Rules.replying_still ipmi).orderly folder u
  unfold LogSensor.start
  simp only [bind_eq, acts_bind]
  refine Twins.bind (Twins.of_ensures hopened (yields_openIn folder hsaved htext)) ?_
  rintro r u₁ _ w₁ ⟨⟨-, hr⟩, rfl, hsaved₁, htext₁⟩
  cases r with
  | error e =>
    -- this start has failed already
    have hfailed : Yields ipmi (.done (.error (.store e) : Except StartError LogSensor)) u₁
        fun r _ => ∀ s, r ≠ .ok s := .done trivial nofun
    exact (Twins.of_left hfailed).mono fun r _ _ _ h s hs => absurd hs (h s)
  | ok st =>
    obtain rfl := hr st rfl
    simp only [acts_bind]
    refine Twins.bind (Twins.of_right (yields_storeCursor hsaved₁)) ?_
    rintro index u₂ _ w₂ ⟨rfl, hp⟩
    refine Twins.bind (mirrors_loadTypes _ _ u₂ w₂) ?_
    rintro _ u₃ numbers w₃ ⟨rfl, hfiles⟩
    cases numbers with
    | error e => exact .done nofun
    | ok numbers =>
      refine .done ?_
      rintro s ⟨⟩
      have hall := hfiles.trans hp.files
      exact ⟨rfl, rfl, rfl, rfl, hsaved₁.of_files hall, (text?_of_files hall _).trans htext₁⟩

end HealthAgent
