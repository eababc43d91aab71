import HealthAgent.Proofs.EventLog.Lifetimes
/-!
# Worlds that answer

The rules of a run leave the answers open. `Replies` fixes them: the files and the log are as the
world has them, replacing a file succeeds unless it is refused, and the rest is told by a function. A
program then has one run, which can be evaluated and comes to an end, and this run obeys every set of
rules that admits the replies.

Results:
* `Replies.runs`: the run under replies obeys rules that admit them.
* `Replies.exists_run`: under replies, every program runs to its end.
* `Machine.Reachable.launch`, `Machine.Reachable.cycle`: machines under replies are reachable.
-/
namespace HealthAgent
open Program

/-- How a world answers: what the controller says but to the listing of the log, which files can be
read, and which contents of files are refused. -/
structure Replies where
  ipmi : IpmiRequest → Except SourceError String
  readable : String → Bool
  refuses : String → ByteArray → Bool := fun _ _ => false

namespace Replies

def answer (R : Replies) (w : World) : (a : Act) → a.Answer
  | .ask (.ipmi .logList) => .ok w.log
  | .ask (.ipmi r) => R.ipmi r
  | .ask (.records _ _) => .ok []
  | .ask (.file (.makeFolder _)) => true
  | .ask (.file (.load path)) => if R.readable path then w.content path else .failed
  | .ask (.file (.replace path bytes)) => if R.refuses path bytes then .refused else .written
  | .ask .clock => ""
  | .ask .salt => ""
  | .ask (.deliver _) => true
  | .plan _ _ => ()
  | .handled _ => ()

def handle (R : Replies) (a : Act) (w : World) : a.Answer × World :=
  (R.answer w a, w.after a (R.answer w a))

/-- The rules admit these replies, and let the world be. -/
def Obey (R : Replies) (ρ : Rules) : Prop := ∀ w a, ρ.drifts w w ∧ ρ.admits w a (R.answer w a)

theorem allows (R : Replies) (w : World) (a : Act) : w.allows a (R.answer w a) := by
  unfold World.allows
  split
  · rename_i path
    simp only [answer]
    split
    · exact .inr rfl
    · exact .inl rfl
  · intro text h
    cases h
    rfl
  · trivial

theorem answer_clears {R : Replies} (h : ∀ text, R.ipmi .logClear ≠ .ok text) (w : World) (a : Act) :
    (Event.mk a (R.answer w a)).clears = false := by
  cases a with
  | ask r =>
    cases r with
    | ipmi r =>
      cases r with
      | logClear =>
        change (Event.mk (.ask (.ipmi .logClear)) (R.ipmi .logClear)).clears = false
        cases heq : R.ipmi .logClear with
        | ok text => exact absurd heq (h text)
        | error e => rfl
      | _ => rfl
    | _ => rfl
  | _ => rfl

theorem obey_still (R : Replies) : R.Obey .still := fun _ _ => ⟨rfl, trivial⟩

theorem runs {R : Replies} {ρ : Rules} (h : R.Obey ρ) {α : Type} (n : Nat) (p : ActProgram α)
    (w : World) : Runs ρ.Step p w (p.runFor R.handle n w).1 (p.runFor R.handle n w).2 :=
  runs_runFor R.handle id (fun a w => ⟨w, (h w a).1, R.allows w a, (h w a).2, rfl⟩) n p w

/-- Under replies, every program runs to its end. -/
theorem exists_run {R : Replies} {ρ : Rules} (h : R.Obey ρ) {α : Type} (p : ActProgram α)
    (w : World) : ∃ a v, Runs ρ.Step p w (some a) v := by
  induction p generalizing w with
  | done a => exact ⟨a, w, .done a w⟩
  | call r k ih =>
    obtain ⟨a, v, hrun⟩ := ih (R.answer w r) (w.after r (R.answer w r))
    exact ⟨a, v, .call ⟨w, (h w r).1, R.allows w r, (h w r).2, rfl⟩ hrun⟩

end Replies

namespace Machine

variable (R : Replies) (n : Nat)

/-- Starts the sensor, for at most `n` acts. -/
def launch (folder : String) (config : LogConfig) (context : AlertContext) (zone : Calendar.Zone) :
    Machine → Machine
  | ⟨none, w⟩ =>
    let (r, v) := (acts (LogSensor.start folder config context zone)).runFor R.handle n w
    ⟨r.bind Except.toOption, v⟩
  | m => m

/-- Runs a cycle, for at most `n` acts. -/
def cycle (now : Nat) : Machine → Machine
  | ⟨some s, w⟩ =>
    let (r, v) := (s.pollActs now).runFor R.handle n w
    ⟨r.map Prod.snd, v⟩
  | m => m

def withLog (log : String) (m : Machine) : Machine := ⟨m.sensor, { m.world with log }⟩

/-- What has happened from one machine to a later one. -/
def eventsTo (m m' : Machine) : List Event := m'.world.history.drop m.world.history.length

/-- The outcome of a cycle, if it ends within `n` acts. -/
def outcome (now : Nat) : Machine → Option Outcome
  | ⟨some s, w⟩ => ((s.pollActs now).runFor R.handle n w).1.map Prod.fst
  | _ => none

variable {R n} {ρ : Rules} {starts : World → Prop} {folder : String} {m : Machine}

theorem exists_completed (hρ : ρ.Orderly) (hR : R.Obey ρ) {now : Nat} {o : Outcome}
    (h : m.outcome R n now = some o) : ∃ s s', m.sensor = some s ∧
      (m.cycle R n now).sensor = some s' ∧
        Runs ρ.Step (s.pollActs now) m.world (some (o, s')) (m.cycle R n now).world ∧
        (m.cycle R n now).world.history = m.world.history ++ m.eventsTo (m.cycle R n now) := by
  obtain ⟨sensor, w⟩ := m
  cases sensor with
  | none => cases h
  | some s =>
    have hrun := Replies.runs hR n (s.pollActs now) w
    obtain ⟨⟨o', s'⟩, heq, rfl⟩ := Option.map_eq_some_iff.1 h
    rw [heq] at hrun
    refine ⟨s, s', rfl, ?_, hrun, ?_⟩
    · simp only [cycle, heq, Option.map_some]
    · exact (List.prefix_iff_eq_append.1 (runs_history hρ hrun)).symm

theorem exists_completed_only {P : Event → Bool} {now : Nat} {o : Outcome}
    (h : m.outcome R n now = some o) (hP : (m.eventsTo (m.cycle R n now)).all P = true) :
    ∃ s s', m.sensor = some s ∧ (m.cycle R n now).sensor = some s' ∧
      Runs (Rules.only P).Step (s.pollActs now) m.world (some (o, s')) (m.cycle R n now).world ∧
      (m.cycle R n now).world.history = m.world.history ++ m.eventsTo (m.cycle R n now) := by
  have hρ := Rules.still_still
  obtain ⟨s, s', hs, hs', hrun, hevs⟩ := exists_completed hρ.orderly R.obey_still h
  exact ⟨s, s', hs, hs', hρ.runs_only hrun hevs (List.all_eq_true.1 hP), hevs⟩

/-- A cycle that does not end within `n` acts is a run that is cut short. -/
theorem exists_cut (hR : R.Obey ρ) {now : Nat} {s : LogSensor} (hs : m.sensor = some s)
    (h : m.outcome R n now = none) :
    Runs ρ.Step (s.pollActs now) m.world none (m.cycle R n now).world := by
  obtain ⟨sensor, w⟩ := m
  cases hs
  have hrun := Replies.runs hR n (s.pollActs now) w
  have hnone : ((s.pollActs now).runFor R.handle n w).1 = none := Option.map_eq_none_iff.1 h
  rw [hnone] at hrun
  exact hrun

/-- A start that ends with a sensor is a run to its end. -/
theorem exists_started (hR : R.Obey ρ) {w : World} {config : LogConfig} {context : AlertContext}
    {zone : Calendar.Zone}
    (h : ((⟨none, w⟩ : Machine).launch R n folder config context zone).sensor.isSome = true) :
    ∃ s, ((⟨none, w⟩ : Machine).launch R n folder config context zone).sensor = some s ∧
      Runs ρ.Step (acts (LogSensor.start folder config context zone)) w (some (.ok s))
        ((⟨none, w⟩ : Machine).launch R n folder config context zone).world := by
  have hrun := Replies.runs hR n (acts (LogSensor.start folder config context zone)) w
  obtain ⟨s, hs⟩ := Option.isSome_iff_exists.1 h
  obtain ⟨r, hr, hok⟩ := Option.bind_eq_some_iff.1 hs
  cases r with
  | error e => cases hok
  | ok s' =>
    cases hok
    rw [hr] at hrun
    exact ⟨s, hs, hrun⟩

theorem exists_started_only {P : Event → Bool} {w : World} {config : LogConfig}
    {context : AlertContext} {zone : Calendar.Zone}
    (h : ((⟨none, w⟩ : Machine).launch R n folder config context zone).sensor.isSome = true)
    (hP : ((⟨none, w⟩ : Machine).eventsTo
      ((⟨none, w⟩ : Machine).launch R n folder config context zone)).all P = true) :
    ∃ s, ((⟨none, w⟩ : Machine).launch R n folder config context zone).sensor = some s ∧
      Runs (Rules.only P).Step (acts (LogSensor.start folder config context zone)) w (some (.ok s))
        ((⟨none, w⟩ : Machine).launch R n folder config context zone).world := by
  have hρ := Rules.still_still
  obtain ⟨s, hs, hrun⟩ := exists_started R.obey_still h
  have hevs := List.prefix_iff_eq_append.1 (runs_history hρ.orderly hrun)
  exact ⟨s, hs, hρ.runs_only hrun hevs.symm (List.all_eq_true.1 hP)⟩

theorem Reachable.launch (hR : R.Obey ρ) (h : Reachable ρ starts folder m) (hm : starts m.world)
    (config : LogConfig) (context : AlertContext) (zone : Calendar.Zone) :
    Reachable ρ starts folder (m.launch R n folder config context zone) := by
  obtain ⟨o, w⟩ := m
  cases o with
  | none => exact h.step (.start config context zone hm (Replies.runs hR n _ w))
  | some s => exact h

theorem Reachable.cycle (hR : R.Obey ρ) (h : Reachable ρ starts folder m) (now : Nat) :
    Reachable ρ starts folder (m.cycle R n now) := by
  obtain ⟨o, w⟩ := m
  cases o with
  | none => exact h
  | some s => exact h.step (.poll now (Replies.runs hR n _ w))

end Machine

/-! ## A world for trials -/

namespace Trial

def config : LogConfig where
  enabled := true
  pollIntervalSeconds := 10
  usageThreshold := 90
  queryIntervalSeconds := 60
  entrySizeBytes := 16
  useSudo := false

def context : AlertContext := ⟨1, 2, 3, 4, "host"⟩

/-- The line of an entry about a fan. -/
def line (index description : String) : String :=
  index ++ "|||Fan #0x30|" ++ description ++ "|Asserted\n"

/-- A controller that tells this usage, lists these fans, and so answers the request to clear the
log. -/
def replies (usage fans : String) (clear : Except SourceError String) : Replies where
  ipmi
    | .logInfo => .ok ("Percent Used : " ++ usage ++ "\n")
    | .logClear => clear
    | .sensorsOfType "Fan" => .ok fans
    | _ => .ok ""
  readable _ := true

/-- A controller that cannot clear its log. -/
def keeping : Replies := replies "10%" "" (.error (.commandFailed "sel" 1 ""))

theorem keeping_clears (w : World) (a : Act) :
    (Event.mk a (keeping.answer w a)).clears = false :=
  Replies.answer_clears (fun _ h => by cases h) w a

/-- A machine without state files, before the first start. -/
def fresh (log : String) : Machine := ⟨none, ⟨fun _ => none, log, []⟩⟩

theorem fresh_reachable {log : String} (h : Increasing (LogEntry.parseLines log.writtenLines))
    (ρ : Rules) (starts : World → Prop) (folder : String) :
    Machine.Reachable ρ starts folder (fresh log) := .init rfl rfl rfl h

end Trial
end HealthAgent
