import HealthAgent.Proofs.EventLog.Drafts
import HealthAgent.Proofs.EventLog.Tasks
/-!
# What the alerts of a cycle rest on

An alert of a cycle rests on the replies to the requests that were made for its entry: the description
of its sensor, the clock if the entry tells no time that can be used, and the random text of its
identity. A `Report` holds these replies; the alert and the events follow from it. A cycle reports
unseen entries in the order of its plan. Where a cycle is cut short, or a sensor cannot be described,
the entries from there on are not reported.

Results:
* `ensures_dispatchEntry_reports`: the handling of an entry, as a report or as nothing.
* `ensures_dispatchActs_reports`, `ensures_pollActs_reports`: the reports of unseen entries and of a
  whole cycle, wherever it is cut short.
-/
namespace HealthAgent
open Program World

/-! ## Reports -/

/-- The replies for the alert of an entry, and what they are read as. -/
structure Report where
  device : Device
  sensorId : String
  kind : AlertKind
  severity : Severity
  reply : Except SourceError String
  props : SensorProps
  /-- What the clock told, if it was asked. -/
  clock : String
  salt : String
  taken : Bool

/-- The look at the clock for an entry, which is had only if the entry tells no time. -/
def Device.clockEvents (zone : Calendar.Zone) (entry : LogEntry) (clock : String) : List Event :=
  match Calendar.eventTime? zone entry.date entry.time with
  | some _ => []
  | none => [⟨.ask .clock, clock⟩]

/-- The events tell of no plan and no alert. -/
def Mute (evs : List Event) : Prop := delivered evs = [] ∧ planned evs = []

theorem Mute.append {evs evs' : List Event} (h : Mute evs) (h' : Mute evs') : Mute (evs ++ evs') :=
  ⟨by rw [delivered_append, h.1, h'.1]; rfl, by rw [planned_append, h.2, h'.2]; rfl⟩

theorem mute_reply (q : IpmiRequest) (reply : Except SourceError String) :
    Mute [⟨.ask (.ipmi q), reply⟩] := ⟨rfl, rfl⟩

theorem mute_salt (salt : String) : Mute [⟨.ask .salt, salt⟩] := ⟨rfl, rfl⟩

theorem Device.mute_clockEvents (zone : Calendar.Zone) (entry : LogEntry) (clock : String) :
    Mute (clockEvents zone entry clock) := by
  unfold clockEvents
  split
  · exact ⟨rfl, rfl⟩
  · exact ⟨rfl, rfl⟩

namespace Report

variable (r : Report) (s : LogSensor) (u : TailPlan.Unseen)

def alert : AlertRecord :=
  s.context.assemble r.salt (r.device.draftOf u.entry r.sensorId u.terminal r.kind r.severity
    (Device.eventTimeOr s.zone u.entry r.clock) r.props)

/-- The events before the alert is delivered: the description, the clock, the random text. -/
def requests : List Event :=
  [⟨.ask (.ipmi (r.device.request r.sensorId)), r.reply⟩] ++
    Device.clockEvents s.zone u.entry r.clock ++ [⟨.ask .salt, r.salt⟩]

def events : List Event := r.requests s u ++ [⟨.ask (.deliver (r.alert s u)), r.taken⟩]

/-- The report is one of the entry. -/
structure Of : Prop where
  target : s.target? u.entry = some (r.device, r.sensorId)
  classified : r.device.classify u.entry.description u.entry.status = some (r.kind, r.severity)
  described : r.device.read r.reply = .ok r.props

variable {r s u}

theorem Of.alertable (h : r.Of s u) : s.alertable u.entry = true := by
  rw [LogSensor.alertable, h.target]
  dsimp only
  rw [h.classified]
  rfl

variable (r s u)

theorem mute_requests : Mute (r.requests s u) := by
  have hdescribed := mute_reply (r.device.request r.sensorId) r.reply
  exact (hdescribed.append (Device.mute_clockEvents s.zone u.entry r.clock)).append (mute_salt r.salt)

theorem delivered_events : delivered (r.events s u) = [r.alert s u] := by
  rw [events, delivered_append, (r.mute_requests s u).1]
  rfl

theorem planned_events : planned (r.events s u) = [] := by
  rw [events, planned_append, (r.mute_requests s u).2]
  rfl

end Report

/-! ## Reports of entries -/

namespace LogSensor

/-- The alerts in the events are those of the entries, one by one and in order, and each rests on the
events of a report. -/
def Reports (s : LogSensor) (us : List TailPlan.Unseen) (evs : List Event) : Prop :=
  List.Forall₂ (fun u alert => ∃ r : Report, r.Of s u ∧ r.events s u <:+: evs ∧ alert = r.alert s u)
    us (delivered evs)

/-- The first of the entries that raise alerts are reported. -/
def ReportsFirst (s : LogSensor) (us : List TailPlan.Unseen) (evs : List Event) : Prop :=
  ∃ xs, xs <+: us.filter (s.alertable ·.entry) ∧ s.Reports xs evs

/-- The first of the entries that the plan of a cycle leaves to do are reported. -/
def ReportsPlan (s : LogSensor) (evs : List Event) : Prop :=
  s.ReportsFirst (TailPlan.make (planned evs) s.cursor).unseen evs

variable {s : LogSensor} {us us' : List TailPlan.Unseen} {evs evs' : List Event}

theorem Reports.nil (h : delivered evs = []) : s.Reports [] evs := by
  rw [Reports, h]
  exact .nil

theorem Reports.append (h : s.Reports us evs) (h' : s.Reports us' evs') :
    s.Reports (us ++ us') (evs ++ evs') := by
  rw [Reports, delivered_append]
  refine List.rel_append (h.imp ?_) (h'.imp ?_)
  · rintro u alert ⟨r, hof, hevs, halert⟩
    exact ⟨r, hof, hevs.trans (List.prefix_append evs evs').isInfix, halert⟩
  · rintro u alert ⟨r, hof, hevs, halert⟩
    exact ⟨r, hof, hevs.trans (List.suffix_append evs evs').isInfix, halert⟩

theorem ReportsFirst.nil (h : delivered evs = []) : s.ReportsFirst us evs :=
  ⟨[], List.nil_prefix, .nil h⟩

theorem ReportsFirst.between (h : s.ReportsFirst us evs) {before after : List Event}
    (hbefore : delivered before = []) (hafter : delivered after = []) :
    s.ReportsFirst us (before ++ evs ++ after) := by
  obtain ⟨xs, hxs, hreports⟩ := h
  have hall := ((Reports.nil hbefore).append hreports).append (Reports.nil hafter)
  rw [List.append_nil] at hall
  exact ⟨xs, hxs, hall⟩

theorem ReportsFirst.cons {u : TailPlan.Unseen} (h' : s.ReportsFirst us evs')
    (h : s.Reports ([u].filter (s.alertable ·.entry)) evs) :
    s.ReportsFirst (u :: us) (evs ++ evs') := by
  obtain ⟨xs, hxs, hreports⟩ := h'
  refine ⟨[u].filter (s.alertable ·.entry) ++ xs, ?_, h.append hreports⟩
  have hfilter : (u :: us).filter (s.alertable ·.entry) =
      [u].filter (s.alertable ·.entry) ++ us.filter (s.alertable ·.entry) := by
    rw [← List.filter_append]
    rfl
  rw [hfilter]
  exact (List.prefix_append_right_inj _).2 hxs

end LogSensor

/-! ## Entries -/

/-- What has happened since another world. -/
abbrev World.Adds (w v : World) (evs : List Event) : Prop := v.history = w.history ++ evs

theorem World.Adds.refl (w : World) : w.Adds w [] := (List.append_nil _).symm

theorem World.Adds.trans {u v w : World} {evs evs' : List Event} (h : u.Adds v evs)
    (h' : v.Adds w evs') : u.Adds w (evs ++ evs') := by
  rw [World.Adds, h', h, List.append_assoc]

/-- Nothing has happened that tells of a plan or an alert. -/
def World.Rests (w v : World) : Prop := ∃ evs, w.Adds v evs ∧ Mute evs

theorem World.Rests.refl (w : World) : w.Rests w := ⟨[], .refl w, rfl, rfl⟩

theorem World.Adds.rests {u v w : World} {evs : List Event} (h : u.Adds v evs) (hevs : Mute evs)
    (h' : v.Rests w) : u.Rests w := by
  obtain ⟨evs', hevs', hmute⟩ := h'
  exact ⟨evs ++ evs', h.trans hevs', hevs.append hmute⟩

section
variable {ρ : Rules} (hρ : ρ.Orderly)
include hρ

/-- What does not serve to deliver alerts tells of no plan and no alert. -/
theorem OnlyFor.ensures_rests {α : Type} {ts : List Task} {p : SensorProgram α} (hp : OnlyFor ts p)
    (hts : .report ∉ ts) (w : World) : Ensures ρ.Step w.Rests (acts p) w fun _ v => w.Rests v := by
  intro o v hrun
  obtain ⟨evs, hevs⟩ := exists_events hρ hrun
  obtain ⟨-, hdelivered, hplanned⟩ := silent_of_tasks (task_ne (hp.events hρ hrun hevs) hts)
  have hrests : w.Rests v := ⟨evs, hevs, hdelivered, hplanned⟩
  exact ⟨hrests, fun _ _ => hrests⟩

theorem ensures_describe_told (d : Device) (sensorId : String) (w : World) :
    Ensures ρ.Step w.Rests (acts (d.describe sensorId)) w fun p v =>
      ∃ reply, w.Adds v [⟨.ask (.ipmi (d.request sensorId)), reply⟩] ∧ p = d.read reply := by
  rw [d.describe_eq]
  apply Ensures.call (.refl w)
  intro reply v hstep
  have hadds : w.Adds v [⟨.ask (.ipmi (d.request sensorId)), reply⟩] := hstep.history hρ
  exact .done ⟨_, hadds, mute_reply _ reply⟩ ⟨reply, hadds, rfl⟩

theorem ensures_eventTimeOf_told (zone : Calendar.Zone) (entry : LogEntry) (w : World) :
    Ensures ρ.Step w.Rests (acts (Device.eventTimeOf zone entry)) w fun time v =>
      ∃ clock, w.Adds v (Device.clockEvents zone entry clock) ∧
        time = Device.eventTimeOr zone entry clock := by
  unfold Device.eventTimeOf Device.clockEvents Device.eventTimeOr
  cases Calendar.eventTime? zone entry.date entry.time with
  | some t => exact .done (.refl w) ⟨"", .refl w, rfl⟩
  | none =>
    apply Ensures.call (.refl w)
    intro time v hstep
    have hadds : w.Adds v [⟨.ask .clock, time⟩] := hstep.history hρ
    exact .done ⟨_, hadds, rfl, rfl⟩ ⟨time, hadds, rfl⟩

/-- The handling of an entry: it is left alone, it is reported, or its sensor is not described. -/
theorem ensures_dispatchEntry_reports (s : LogSensor) (u : TailPlan.Unseen) (w : World) :
    Ensures ρ.Step (fun v => w.Rests v ∨ ∃ r : Report, r.Of s u ∧ w.Adds v (r.events s u))
      (acts (s.dispatchEntry u)) w fun a v =>
        (a = .ok () ∧ s.alertable u.entry = false ∧ v = w) ∨
        (a = .ok () ∧ ∃ r : Report, r.Of s u ∧ w.Adds v (r.events s u)) ∨
        (∃ e, a = .error e) ∧ w.Rests v := by
  unfold LogSensor.dispatchEntry
  split
  · rename_i hnone
    have hidle : s.alertable u.entry = false := by simp [LogSensor.alertable, hnone]
    exact .done (.inl (.refl w)) (.inl ⟨rfl, hidle, rfl⟩)
  rename_i device sensorId htarget
  unfold Device.draft
  split
  · rename_i hnone
    have hidle : s.alertable u.entry = false := by simp [LogSensor.alertable, htarget, hnone]
    exact .done (.inl (.refl w)) (.inl ⟨rfl, hidle, rfl⟩)
  rename_i kind severity hclass
  rw [bind_eq, bind_eq, bind_assoc]
  have hdescribe := ensures_describe_told hρ device sensorId w
  refine Ensures.acts_bind (hdescribe.mono (fun _ h => .inl h) fun _ _ _ h => h) ?_
  rintro p w₁ ⟨reply, hreply, rfl⟩
  have hmute := mute_reply (device.request sensorId) reply
  have hrests : w.Rests w₁ := ⟨_, hreply, hmute⟩
  cases hread : device.read reply with
  | error e => exact .done (.inl hrests) (.inr (.inr ⟨⟨e, rfl⟩, hrests⟩))
  | ok props =>
    dsimp only
    rw [bind_eq, bind_assoc]
    have htime := ensures_eventTimeOf_told hρ s.zone u.entry w₁
    refine Ensures.acts_bind (htime.mono (fun _ h => .inl (hreply.rests hmute h)) fun _ _ _ h => h) ?_
    rintro time w₂ ⟨clock, hclock, rfl⟩
    have hbefore := hreply.trans hclock
    have hmute₂ := hmute.append (Device.mute_clockEvents s.zone u.entry clock)
    refine Ensures.call (.inl ⟨_, hbefore, hmute₂⟩) ?_
    intro salt w₃ hsalt
    have hbefore₃ := hbefore.trans (hsalt.history hρ)
    refine Ensures.call (.inl ⟨_, hbefore₃, hmute₂.append (mute_salt salt)⟩) ?_
    intro taken w₄ hdeliver
    have hreport : ∃ r : Report, r.Of s u ∧ w.Adds w₄ (r.events s u) :=
      ⟨⟨device, sensorId, kind, severity, reply, props, clock, salt, taken⟩,
        ⟨htarget, hclass, hread⟩, hbefore₃.trans (hdeliver.history hρ)⟩
    exact .done (.inr hreport) (.inr (.inl ⟨rfl, hreport⟩))

end

/-! ## The whole cycle -/

namespace LogSensor

/-- Some of the entries have been handled, and the first of those that raise alerts are reported. -/
def Deals (s : LogSensor) (us : List TailPlan.Unseen) (w v : World) : Prop :=
  ∃ evs, w.Adds v evs ∧ planned evs = [] ∧ s.ReportsFirst us evs

/-- A cycle has reported the first of the entries that raise alerts. -/
def Polls (s : LogSensor) (w v : World) : Prop := ∃ evs, w.Adds v evs ∧ s.ReportsPlan evs

variable {s : LogSensor} {u : TailPlan.Unseen} {us : List TailPlan.Unseen} {w v v' : World}
  {evs : List Event}

theorem Deals.of_rests (h : w.Rests v) : s.Deals us w v := by
  obtain ⟨evs, hevs, hmute⟩ := h
  exact ⟨evs, hevs, hmute.2, .nil hmute.1⟩

/-- After an entry that raises no alert or is reported, the others are handled. -/
theorem Deals.cons (hevs : w.Adds v evs) (hplanned : planned evs = [])
    (h : s.Reports ([u].filter (s.alertable ·.entry)) evs) (h' : s.Deals us v v') :
    s.Deals (u :: us) w v' := by
  obtain ⟨evs', hevs', hplanned', hfirst⟩ := h'
  exact ⟨evs ++ evs', hevs.trans hevs', by rw [planned_append, hplanned, hplanned']; rfl, hfirst.cons h⟩

/-- A plan is made, and then the entries that it leaves to do are handled. -/
theorem Polls.of_deals {entries : List LogEntry}
    (hplan : w.Adds v [⟨.plan entries (TailPlan.make entries s.cursor), ()⟩])
    (h : s.Deals (TailPlan.make entries s.cursor).unseen v v') : s.Polls w v' := by
  obtain ⟨evs, hevs, hplanned, hfirst⟩ := h
  refine ⟨_, hplan.trans hevs, ?_⟩
  have hentries : planned ([⟨.plan entries (TailPlan.make entries s.cursor), ()⟩] ++ evs) =
      entries := by
    rw [planned_append, hplanned, List.append_nil]
    exact List.append_nil entries
  rw [ReportsPlan, hentries]
  have hplan : delivered [⟨.plan entries (TailPlan.make entries s.cursor), ()⟩] = [] := rfl
  have hnone : delivered [] = [] := rfl
  have hall := hfirst.between hplan hnone
  rwa [List.append_nil] at hall

theorem Polls.of_rests (h : w.Rests v) : s.Polls w v := by
  obtain ⟨evs, hevs, hmute⟩ := h
  exact ⟨evs, hevs, .nil hmute.1⟩

theorem Polls.of_unsaved {unsaved : Bool}
    (h : ({ s with cursorUnsaved := unsaved } : LogSensor).Polls w v) : s.Polls w v := by
  obtain ⟨evs, hevs, xs, hxs, hreports⟩ := h
  refine ⟨evs, hevs, xs, hxs, hreports.imp ?_⟩
  rintro u alert ⟨r, hof, hr⟩
  exact ⟨r, ⟨hof.target, hof.classified, hof.described⟩, hr⟩

/-- What happens before the plan and after the reports is nothing to them. -/
theorem Polls.between (h : w.Rests v) (h' : s.Polls v v') {w' : World} (h'' : v'.Rests w') :
    s.Polls w w' := by
  obtain ⟨before, hbefore, hmute⟩ := h
  obtain ⟨evs, hevs, hreports⟩ := h'
  obtain ⟨after, hafter, hmute'⟩ := h''
  refine ⟨before ++ evs ++ after, (hbefore.trans hevs).trans hafter, ?_⟩
  have hplanned : planned (before ++ evs ++ after) = planned evs := by
    rw [planned_append, planned_append, hmute.2, hmute'.2, List.append_nil]
    rfl
  rw [ReportsPlan, hplanned]
  exact hreports.between hmute.1 hmute'.1

end LogSensor

theorem Report.Of.reports {s : LogSensor} {u : TailPlan.Unseen} {r : Report} (h : r.Of s u) :
    s.Reports ([u].filter (s.alertable ·.entry)) (r.events s u) := by
  have hfilter : [u].filter (s.alertable ·.entry) = [u] := by simp [h.alertable]
  rw [hfilter, LogSensor.Reports, r.delivered_events]
  exact .cons ⟨r, h, List.infix_rfl, rfl⟩ .nil

section
variable {ρ : Rules} (hρ : ρ.Orderly)
include hρ

/-- The entries are handled one after the other, as far as it goes. -/
theorem ensures_dispatchActs_reports (s : LogSensor) (us : List TailPlan.Unseen) (w : World) :
    Ensures ρ.Step (s.Deals us w) (s.dispatchActs us) w fun _ v => s.Deals us w v := by
  induction us generalizing w with
  | nil => exact .done (.of_rests (.refl w)) (.of_rests (.refl w))
  | cons u us ih =>
    -- Once the entry has been handled, so are the others.
    have hgo : ∀ v evs, w.Adds v evs → planned evs = [] →
        s.Reports ([u].filter (s.alertable ·.entry)) evs →
        Ensures ρ.Step (s.Deals (u :: us) w)
          (Program.call (Act.handled u) fun _ => s.dispatchActs us) v
          fun _ v' => s.Deals (u :: us) w v' := by
      intro v evs hevs hplanned hreports
      refine Ensures.call (.cons hevs hplanned hreports (.of_rests (.refl v))) fun _ v₁ hstep => ?_
      have htold : w.Adds v₁ (evs ++ [⟨.handled u, ()⟩]) := hevs.trans (hstep.history hρ)
      have hplanned₁ : planned (evs ++ [⟨.handled u, ()⟩]) = [] := by
        rw [planned_append, hplanned]
        rfl
      have hnone : s.Reports [] [⟨.handled u, ()⟩] := .nil rfl
      have hreports₁ := hreports.append hnone
      rw [List.append_nil] at hreports₁
      have hcons : ∀ v₂, s.Deals us v₁ v₂ → s.Deals (u :: us) w v₂ :=
        fun v₂ h => .cons htold hplanned₁ hreports₁ h
      exact (ih v₁).mono hcons fun _ v₂ hi _ => hcons v₂ hi
    refine Ensures.bind ((ensures_dispatchEntry_reports hρ s u w).mono ?_ fun _ _ _ h => h) ?_
    · rintro v (hrests | ⟨r, hof, hevs⟩)
      · exact .of_rests hrests
      · exact .cons hevs (r.planned_events s u) hof.reports (.of_rests (.refl v))
    · rintro a v (⟨rfl, hidle, rfl⟩ | ⟨rfl, r, hof, hevs⟩ | ⟨⟨e, rfl⟩, hrests⟩)
      · refine hgo v [] (.refl v) rfl ?_
        rw [List.filter_cons_of_neg (by simp [hidle])]
        exact .nil rfl
      · exact hgo v _ hevs (r.planned_events s u) hof.reports
      · exact .done (.of_rests hrests) (.of_rests hrests)

/-- Writing the cursor again changes nothing but the note of whether it is written. -/
theorem ensures_retryCursor_rests (s : LogSensor) (w : World) :
    Ensures ρ.Step w.Rests (acts s.retryCursor) w fun s' v =>
      (∃ unsaved, s' = { s with cursorUnsaved := unsaved }) ∧ w.Rests v := by
  unfold LogSensor.retryCursor
  split
  · apply Ensures.call (.refl w)
    intro a v hstep
    have hrests : w.Rests v := ⟨_, hstep.history hρ, rfl, rfl⟩
    cases a with
    | written => exact .done hrests ⟨⟨false, rfl⟩, hrests⟩
    | noFolder => exact .done hrests ⟨⟨true, rfl⟩, hrests⟩
    | refused => exact .done hrests ⟨⟨true, rfl⟩, hrests⟩
  · exact .done (.refl w) ⟨⟨s.cursorUnsaved, rfl⟩, .refl w⟩

theorem OnlyFor.ensures_polls {s : LogSensor} {α : Type} {ts : List Task} {p : SensorProgram α}
    (hp : OnlyFor ts p) (hts : .report ∉ ts) {w v : World} (h : s.Polls w v) :
    Ensures ρ.Step (s.Polls w) (acts p) v fun _ v' => s.Polls w v' :=
  (hp.ensures_rests hρ hts v).mono (fun _ h' => .between (.refl w) h h')
    fun _ _ _ h' => .between (.refl w) h h'

theorem ensures_handleActs_reports (s : LogSensor) (lines : List String) (w : World) :
    Ensures ρ.Step (s.Polls w) (s.handleActs lines) w fun _ v => s.Polls w v := by
  refine Ensures.call (.of_rests (.refl w)) fun _ v hstep => ?_
  rw [bind_done]
  have hpolls : ∀ v', s.Deals (TailPlan.make (LogEntry.parseLines lines) s.cursor).unseen v v' →
      s.Polls w v' := fun _ h => .of_deals (hstep.history hρ) h
  have hdispatch := ensures_dispatchActs_reports hρ s
    (TailPlan.make (LogEntry.parseLines lines) s.cursor).unseen v
  refine Ensures.bind (hdispatch.mono hpolls fun _ v' _ h => hpolls v' h) fun a v' h => ?_
  cases a with
  | error e => exact .done h h
  | ok _ =>
    have hcommit := (onlyFor_commit s (TailPlan.make (LogEntry.parseLines lines) s.cursor)).ensures_polls
      hρ (by decide) h
    exact hcommit.bind fun _ _ h' => .done h' h'

theorem ensures_processActs_reports (s : LogSensor) (w : World) :
    Ensures ρ.Step (s.Polls w) s.processActs w fun _ v => s.Polls w v := by
  refine Ensures.bind ((ensures_retryCursor_rests hρ s w).mono (fun _ h => .of_rests h)
    fun _ _ _ h => h) ?_
  rintro _ v ⟨⟨unsaved, rfl⟩, hretry⟩
  have hload := (onlyFor_loadBuffer { s with cursorUnsaved := unsaved }).ensures_rests hρ (by decide) v
  have hafter : ∀ {v₁ v₂ : World}, v.Rests v₁ → s.Polls v₁ v₂ → s.Polls w v₂ :=
    fun h h' => .between hretry (.between h h' (.refl _)) (.refl _)
  refine Ensures.bind (hload.mono (fun _ h => hafter h (.of_rests (.refl _))) fun _ _ _ h => h) ?_
  intro r v₁ h
  have hpolls : s.Polls w v₁ := hafter h (.of_rests (.refl v₁))
  rcases r with e | _ | lines
  · exact .done hpolls hpolls
  · exact .done hpolls hpolls
  · have hhandle := ensures_handleActs_reports hρ { s with cursorUnsaved := unsaved } lines v₁
    exact hhandle.mono (fun _ h' => hafter h (.of_unsaved h')) fun _ _ _ h' => hafter h (.of_unsaved h')

/-- A cycle reports the first of the entries that its plan leaves to do, wherever it is cut short. -/
theorem ensures_pollActs_reports (s : LogSensor) (now : Nat) (w : World) :
    Ensures ρ.Step (s.Polls w) (s.pollActs now) w fun _ v => s.Polls w v := by
  refine Ensures.bind (ensures_processActs_reports hρ s w) ?_
  rintro ⟨r, s'⟩ v h
  cases r with
  | error e => exact .done h h
  | ok _ =>
    have husage := (onlyFor_checkUsage s' now).ensures_polls hρ (by decide) h
    exact husage.bind fun _ _ h' => .done h' h'

end

end HealthAgent
