import HealthAgent.Proofs.EventLog.Surroundings
/-!
# The acts of a cycle

`LogSensor.pollActs` is a cycle that also tells of its plan and of each handled entry. Without these
two acts it is `LogSensor.poll`.

Results:
* `erase_acts`: a sensor's program is not changed by taking its requests as acts.
* `erase_pollActs`: without its additional acts, `pollActs` is `poll`.
-/
namespace HealthAgent
open Program

/-! ## Programs with acts -/

abbrev ActProgram (α : Type) := Program Act Act.Answer α

variable {α β : Type}

def acts (p : SensorProgram α) : ActProgram α := p.translate fun r => Program.ask (.ask r)

/-- The request that an act makes, if it makes one. -/
def Act.erase : (a : Act) → SensorProgram a.Answer
  | .ask r => r.ask
  | .plan _ _ => .done ()
  | .handled _ => .done ()

theorem erase_acts (p : SensorProgram α) : (acts p).translate Act.erase = p := by
  rw [acts, translate_translate]
  exact translate_ask p

theorem acts_bind (p : SensorProgram α) (f : α → SensorProgram β) :
    acts (p.bind f) = (acts p).bind fun a => acts (f a) := translate_bind _ p f

theorem Program.Ensures.acts_bind {T : World → (a : Act) → a.Answer → World → Prop}
    {I : World → Prop} {p : SensorProgram α} {f : α → SensorProgram β} {w : World}
    {P : α → World → Prop} {Q : β → World → Prop} (hp : Ensures T I (acts p) w P)
    (hf : ∀ a v, P a v → Ensures T I (acts (f a)) v Q) : Ensures T I (acts (p.bind f)) w Q := by
  rw [HealthAgent.acts_bind]
  exact hp.bind hf

namespace LogSensor

/-- `dispatch`, telling of each handled entry. -/
def dispatchActs (s : LogSensor) : List TailPlan.Unseen → ActProgram (Except SourceError Unit)
  | [] => .done (.ok ())
  | u :: rest => do
    match ← acts (s.dispatchEntry u) with
    | .error e => return .error e
    | .ok () =>
      let () ← Program.ask (Act.handled u)
      dispatchActs s rest

/-- Handles the entries after the cursor, once the lines are there. -/
def handleActs (s : LogSensor) (lines : List String) :
    ActProgram (Except SourceError Unit × LogSensor) := do
  let entries := LogEntry.parseLines lines
  let plan := TailPlan.make entries s.cursor
  let () ← Program.ask (Act.plan entries plan)
  match ← s.dispatchActs plan.unseen with
  | .error e => return (.error e, s)
  | .ok () => return (.ok (), ← acts (s.commit plan))

/-- Writes the cursor if its last writing failed. -/
def retryCursor (s : LogSensor) : SensorProgram LogSensor :=
  if s.cursorUnsaved then s.saveCursor else .done s

/-- `processLog`, telling of the plan and of each handled entry. -/
def processActs (s : LogSensor) : ActProgram (Except SourceError Unit × LogSensor) := do
  let s ← acts s.retryCursor
  match ← acts s.loadBuffer with
  | .error e => return (.error e, s)
  | .ok none => return (.ok (), s)
  | .ok (some lines) => s.handleActs lines

/-- `poll`, telling of the plan and of each handled entry. -/
def pollActs (s : LogSensor) (now : Nat) : ActProgram (Outcome × LogSensor) := do
  let (result, s) ← s.processActs
  match result with
  | .error e => return (.ofResult (.error e), s)
  | .ok () =>
    let (result, s) ← acts (s.checkUsage now)
    return (.ofResult result, s)

theorem erase_dispatchActs (s : LogSensor) (us : List TailPlan.Unseen) :
    (s.dispatchActs us).translate Act.erase = s.dispatch us := by
  induction us with
  | nil => rfl
  | cons u us ih =>
    simp only [dispatchActs, dispatch, bind_eq, translate_bind, erase_acts]
    congr 1
    funext r
    cases r with
    | error e => rfl
    | ok x => exact ih

theorem erase_handleActs (s : LogSensor) (lines : List String) :
    (s.handleActs lines).translate Act.erase =
      (s.dispatch (TailPlan.make (LogEntry.parseLines lines) s.cursor).unseen).bind fun
        | .error e => .done (.error e, s)
        | .ok () => (s.commit (TailPlan.make (LogEntry.parseLines lines) s.cursor)).bind
            fun s => .done (.ok (), s) := by
  simp only [handleActs, bind_eq, translate_bind, erase_dispatchActs]
  simp only [Program.ask, Program.translate, Act.erase, bind_done]
  congr 1
  funext r
  cases r with
  | error e => rfl
  | ok x => simp only [translate_bind, erase_acts]; rfl

theorem erase_processActs (s : LogSensor) :
    s.processActs.translate Act.erase = s.processLog := by
  have hload : ∀ (s : LogSensor) (r : Except SourceError (Option (List String))),
      Program.translate Act.erase (match r with
        | .error e => .done (.error e, s)
        | .ok none => .done (.ok (), s)
        | .ok (some lines) => s.handleActs lines) = match r with
        | .error e => .done (.error e, s)
        | .ok none => .done (.ok (), s)
        | .ok (some lines) => (s.handleActs lines).translate Act.erase := by
    intro s r
    rcases r with e | _ | lines <;> rfl
  simp only [erase_handleActs] at hload
  simp only [processActs, processLog, bind_eq, translate_bind, erase_acts, retryCursor]
  split
  · congr 1
    funext s
    congr 1
    funext r
    exact hload s r
  · exact congrArg (Program.bind s.loadBuffer) (funext (hload s))

/-- Without its additional acts, `pollActs` is `poll`. -/
theorem erase_pollActs (s : LogSensor) (now : Nat) :
    (s.pollActs now).translate Act.erase = s.poll now := by
  simp only [pollActs, poll, bind_eq, translate_bind, erase_processActs]
  congr 1
  funext r
  rcases r with ⟨e | x, s⟩
  · rfl
  · simp only [translate_bind, erase_acts]; rfl

end LogSensor

end HealthAgent
