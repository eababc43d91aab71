import HealthAgent.Proofs.Enclosure.Cycle
import HealthAgent.Proofs.EventLog.Tasks
import HealthAgent.Proofs.Program.Exchanges
/-!
# When a cycle ends its sensor

A sensor that has found its data source missing runs no more cycles. All other failures, of the data
source, of the state files and of the receivers, leave it to the next cycle.

In a cycle of the log sensor the answer that ends it can come up anywhere: where the log is listed,
where the sensor of some entry is described, where the usage is asked for and where the log is
cleared. Each part passes such an answer on and makes no further request (`Stops`), and turns every
other failure into a result that is not fatal. So this holds of the cycle, with plans of any length.

Results:
* `Stops.through`: a part whose failure is passed on.
* `LogSensor.stops_dispatch`, `LogSensor.stops_processLog`, `LogSensor.stops_checkUsage`: the parts
  of a cycle.
* `LogSensor.stops_poll`: a cycle of the log sensor.
* `shutdown_iff_missing`: when a cycle ends its sensor, for both kinds of sensors.
-/
namespace HealthAgent
open Program

/-- A request to the management controller has found the management tool missing. -/
def Exchange.ToolMissing (x : Exchange Request Request.Answer) : Prop :=
  ∃ q text, x = ⟨.ipmi q, .error (.dependencyMissing text)⟩

/-- A result that ends the sensor. -/
def Fatal {α : Type} (r : Except SourceError α) : Prop :=
  ∃ e, r = .error e ∧ e.isTerminal = true

/-- A program for which a missing management tool is the end, and nothing else is fatal. -/
abbrev Stops {α : Type} (fatal : α → Prop) (p : SensorProgram α) : Prop :=
  p.StopsAt Exchange.ToolMissing fatal

variable {α β : Type}

@[simp] theorem fatal_error_iff (e : SourceError) :
    Fatal (.error e : Except SourceError α) ↔ e.isTerminal = true := by
  simp [Fatal]

@[simp] theorem not_fatal_ok (a : α) : ¬Fatal (.ok a : Except SourceError α) := by
  simp [Fatal]

theorem Outcome.ofResult_eq_shutdown_iff (r : Except SourceError Unit) :
    ofResult r = .shutdown ↔ Fatal r := by
  simp only [ofResult_eq_shutdown, Fatal, SourceError.isTerminal_iff]
  constructor
  · rintro ⟨text, rfl⟩
    exact ⟨_, rfl, text, rfl⟩
  · rintro ⟨e, rfl, text, rfl⟩
    exact ⟨text, rfl⟩

namespace Exchange

theorem toolMissing_ipmi_iff (q : IpmiRequest) (a : Except SourceError String) :
    ToolMissing ⟨.ipmi q, a⟩ ↔ Fatal a := by
  simp only [ToolMissing, Fatal, SourceError.isTerminal_iff]
  constructor
  · rintro ⟨q', text, heq⟩
    cases heq
    exact ⟨_, rfl, text, rfl⟩
  · rintro ⟨e, rfl, text, rfl⟩
    exact ⟨q, text, rfl⟩

/-- Keeping the state files and delivering alerts takes no management tool. -/
theorem ToolMissing.task {x : Exchange Request Request.Answer} (h : x.ToolMissing) :
    x.request.task ∉ [.store, .report] := by
  obtain ⟨q, text, rfl⟩ := h
  cases q <;> simp [Request.task]

end Exchange

/-! ## Rules for parts -/

namespace Stops

/-- Parts that keep the state files or deliver alerts stop nothing. -/
theorem behind {ts : List Task} {fatal : β → Prop} {p : SensorProgram α}
    {f : α → SensorProgram β} (h : OnlyFor ts p) (hts : ts ⊆ [.store, .report])
    (hf : ∀ a, Stops fatal (f a)) : Stops fatal (p.bind f) :=
  .after_only (h.imp fun _ hr _ hmissing => hmissing.task (hts hr)) hf

theorem through {fatal : β → Prop} {p : SensorProgram (Except SourceError α)}
    {f : Except SourceError α → SensorProgram β} (hp : Stops Fatal p)
    (herror : ∀ e, ∃ b, f (.error e) = .done b ∧ (fatal b ↔ e.isTerminal = true))
    (hok : ∀ a, Stops fatal (f (.ok a))) : Stops fatal (p.bind f) := by
  refine hp.bind ?_ fun r hr => ?_
  · rintro _ ⟨e, rfl, hterminal⟩
    obtain ⟨b, hb, hiff⟩ := herror e
    exact ⟨b, hb, hiff.2 hterminal⟩
  · cases r with
    | ok a => exact hok a
    | error e =>
      obtain ⟨b, hb, hiff⟩ := herror e
      rw [hb]
      exact fun hfatal => hr ((fatal_error_iff e).2 (hiff.1 hfatal))

/-- A request to the management controller whose failure is passed on. -/
theorem ask (q : IpmiRequest) : Stops Fatal (Request.ipmi q).ask := by
  intro a
  rw [Exchange.toolMissing_ipmi_iff]
  exact ⟨fun h => ⟨a, rfl, h⟩, id⟩

end Stops

/-! ## Parts of a cycle -/

theorem Device.stops_describe (d : Device) (sensorId : String) :
    Stops Fatal (d.describe sensorId) := by
  rw [d.describe_eq]
  refine Stops.through (f := fun reply => .done (d.read reply)) (.ask (d.request sensorId)) ?_ ?_
  · intro e
    refine ⟨_, rfl, ?_⟩
    cases hterminal : e.isTerminal <;> simp [Device.read, hterminal]
  · exact fun text => not_fatal_ok _

theorem Device.stops_draft (d : Device) (zone : Calendar.Zone) (entry : LogEntry)
    (sensorId : String) (terminal : Bool) : Stops Fatal (d.draft zone entry sensorId terminal) := by
  unfold Device.draft
  split
  · exact not_fatal_ok none
  refine (d.stops_describe sensorId).through (fun e => ⟨_, rfl, fatal_error_iff e⟩) fun props => ?_
  exact Stops.behind (onlyFor_eventTimeOf zone entry) (by simp) fun time => not_fatal_ok _

namespace LogSensor

theorem stops_dispatchEntry (s : LogSensor) (u : TailPlan.Unseen) :
    Stops Fatal (s.dispatchEntry u) := by
  unfold dispatchEntry
  split
  · exact not_fatal_ok ()
  refine (Device.stops_draft _ _ _ _ _).through (fun e => ⟨_, rfl, fatal_error_iff e⟩) ?_
  intro draft
  cases draft with
  | none => exact not_fatal_ok ()
  | some draft =>
    have hdelivery : ∀ r : Request, r.task = .report → OnlyFor [.report] r.ask :=
      fun r hr => ⟨by simp [hr], fun _ => trivial⟩
    refine Stops.behind (hdelivery .salt rfl) (by simp) fun salt => ?_
    exact Stops.behind (hdelivery (.deliver _) rfl) (by simp) fun taken => not_fatal_ok ()

/-- Entries are handled until one finds the management tool missing. -/
theorem stops_dispatch (s : LogSensor) (us : List TailPlan.Unseen) :
    Stops Fatal (s.dispatch us) := by
  induction us with
  | nil => exact not_fatal_ok ()
  | cons u us ih =>
    exact (s.stops_dispatchEntry u).through (fun e => ⟨_, rfl, fatal_error_iff e⟩) fun _ => ih

theorem stops_loadBuffer (s : LogSensor) : Stops Fatal s.loadBuffer := by
  refine Stops.behind (onlyFor_pending s.store) (by simp) fun r => ?_
  rcases r with e | _ | ⟨line, lines⟩
  · exact not_fatal_ok none
  · refine (Stops.ask .logList).through (fun e => ⟨_, rfl, fatal_error_iff e⟩) fun text => ?_
    exact Stops.behind (onlyFor_replaceText _ _) (by simp) fun _ => not_fatal_ok _
  · exact not_fatal_ok _

theorem stops_processLog (s : LogSensor) : Stops (fun r => Fatal r.1) s.processLog := by
  unfold processLog
  extract_lets rest
  have hrest : ∀ s : LogSensor, Stops (fun r => Fatal r.1) (rest s) := by
    intro s
    refine s.stops_loadBuffer.through (fun e => ⟨_, rfl, fatal_error_iff e⟩) fun lines => ?_
    cases lines with
    | none => exact not_fatal_ok ()
    | some lines =>
      refine (s.stops_dispatch _).through (fun e => ⟨_, rfl, fatal_error_iff e⟩) fun _ => ?_
      exact Stops.behind (onlyFor_commit s _) (by simp) fun _ => not_fatal_ok ()
  split
  · exact Stops.behind (onlyFor_saveCursor s) (by simp) hrest
  · exact hrest s

end LogSensor

theorem UsageMonitor.stops_check (m : UsageMonitor) (now : Nat) :
    Stops (fun r => Fatal r.1) (m.check now) := by
  unfold check
  split
  · exact not_fatal_ok false
  refine (Stops.ask .logInfo).through (fun e => ⟨_, rfl, fatal_error_iff e⟩) fun text => ?_
  dsimp only
  split
  · exact not_fatal_ok false
  split
  · exact not_fatal_ok false
  refine (Stops.ask .logClear).through (fun e => ⟨_, rfl, ?_⟩) fun _ => not_fatal_ok true
  cases hterminal : e.isTerminal <;> simp [hterminal]

namespace LogSensor

theorem stops_checkUsage (s : LogSensor) (now : Nat) :
    Stops (fun r => Fatal r.1) (s.checkUsage now) := by
  refine (s.usage.stops_check now).bind ?_ ?_
  · rintro ⟨_, usage⟩ ⟨e, rfl, hterminal⟩
    exact ⟨_, rfl, by simp [hterminal]⟩
  · rintro ⟨e | _ | _, usage⟩ hr
    · have hpass : e.isTerminal = false := by simpa using hr
      simp [StopsAt, hpass]
    · exact not_fatal_ok ()
    · exact Stops.behind (onlyFor_saveCursor _) (by simp) fun _ => not_fatal_ok ()

/-- A cycle ends with the first answer that tells that the management tool is missing. -/
theorem stops_poll (s : LogSensor) (now : Nat) : Stops (fun r => r.1 = .shutdown) (s.poll now) := by
  have hend : ∀ (r : Except SourceError Unit) (s : LogSensor),
      (Outcome.ofResult r, s).1 = .shutdown ↔ Fatal r :=
    fun r _ => Outcome.ofResult_eq_shutdown_iff r
  refine s.stops_processLog.bind ?_ ?_
  · rintro ⟨_, s⟩ ⟨e, rfl, hterminal⟩
    exact ⟨_, rfl, (hend _ s).2 ((fatal_error_iff e).2 hterminal)⟩
  · rintro ⟨e | _, s⟩ hr
    · exact fun h => hr ((hend _ s).1 h)
    · refine (s.stops_checkUsage now).bind ?_ ?_
      · exact fun r hfatal => ⟨_, rfl, (hend r.1 r.2).2 hfatal⟩
      · exact fun r hr h => hr ((hend r.1 r.2).1 h)

end LogSensor

theorem Outcome.eq_proceed_iff (o : Outcome) : o = .proceed ↔ o ≠ .shutdown := by
  cases o <;> simp

/-- The cycle of an enclosure's sensor ends it exactly if all that it did was to ask for the records
of the service that is missing. -/
theorem FruSensor.shutdown_iff {σ : Type} (handle : (r : Request) → StateM σ r.Answer) (t : σ)
    (s : FruSensor) : (s.poll.run handle t).1.1 = .shutdown ↔
      ∃ text, s.poll.exchanges handle t = [⟨.records s.kind.apiPath s.kind.responseKey,
        .error (.dependencyMissing text)⟩] := by
  rw [s.poll_eq]
  change ((s.takeSnapshot _).run handle _).1.1 = _ ↔
    ∃ text, _ :: (s.takeSnapshot _).exchanges _ _ = _
  cases (handle (.records s.kind.apiPath s.kind.responseKey) t).1 with
  | error e =>
    refine (Outcome.ofResult_eq_shutdown (.error e)).trans ?_
    simp [takeSnapshot, exchanges]
  | ok records =>
    have hgoesOn : (((s.takeSnapshot (.ok records)).run handle
        (handle (.records s.kind.apiPath s.kind.responseKey) t).2).1).1 = .proceed := by
      rw [takeSnapshot, run_bind_state]
      rfl
    simp [hgoesOn]

/-- **Only a missing dependency ends a sensor, and at once.** Whatever a cycle is answered, by the
management controller, by the files, by the clock and by the receivers: the cycle of the log sensor
ends it exactly if a request to the management controller has found the management tool missing, and
then this was the last request of the cycle. The cycle of an enclosure's sensor ends it exactly if
its request for the records has found the service missing, and then there was no other request. -/
theorem shutdown_iff_missing {σ : Type} (handle : (r : Request) → StateM σ r.Answer) (t : σ) :
    (∀ (s : LogSensor) (now : Nat),
      let outcome := ((s.poll now).run handle t).1.1
      let made := (s.poll now).exchanges handle t
      (outcome = .shutdown ↔ ∃ x ∈ made, x.ToolMissing) ∧
        (outcome = .proceed ↔ ∀ x ∈ made, ¬x.ToolMissing) ∧
        ∀ x ∈ made.dropLast, ¬x.ToolMissing) ∧
    ∀ s : FruSensor,
      let outcome := (s.poll.run handle t).1.1
      let unserved := ∃ text, s.poll.exchanges handle t =
        [⟨.records s.kind.apiPath s.kind.responseKey, .error (.dependencyMissing text)⟩]
      (outcome = .shutdown ↔ unserved) ∧ (outcome = .proceed ↔ ¬unserved) := by
  constructor
  · intro s now outcome made
    have hstops := s.stops_poll now
    have hshutdown : outcome = .shutdown ↔ ∃ x ∈ made, x.ToolMissing := hstops.fatal_iff handle t
    refine ⟨hshutdown, ?_, hstops.last handle t⟩
    rw [outcome.eq_proceed_iff, ne_eq, hshutdown]
    simp only [not_exists, not_and]
  · intro s outcome unserved
    have hshutdown : outcome = .shutdown ↔ unserved := s.shutdown_iff handle t
    exact ⟨hshutdown, by rw [outcome.eq_proceed_iff, ne_eq, hshutdown]⟩

end HealthAgent
