/-!
# The thread of a sensor (specification §5, §B.1)

A thread runs the cycles of one sensor with a fixed rest between them. It shares nothing with other
threads but a flag: it looks at the flag before each cycle and before each slice of its rest, and
ends when it sees the flag cleared between two cycles. A slice is at most half a second, so a rest
does not outlast a cleared flag by more than that.

Results:
* `step_gone`: a thread that has ended stays as it is.
* `gone_after_clear`: with the flag cleared, a thread has ended after a cycle in progress and three
  more steps.
-/
namespace HealthAgent

/-- How a cycle of a sensor ended. -/
inductive CycleEnd where
  | proceed
  /-- Something that the sensor needs is gone. -/
  | shutdown
  /-- The sensor failed in a way that ends its thread. -/
  | crashed
  deriving DecidableEq, Repr

/-- What a thread is about to do. Times are in milliseconds. -/
inductive ThreadPhase where
  /-- Look at the flag, and run a cycle if it is set. -/
  | checking
  /-- Run a cycle; the flag was set. -/
  | polling
  /-- Look at the flag, and rest on if it is set and time is left. -/
  | resting (left : Nat)
  /-- Sleep a slice, after which `left` remains. -/
  | sleeping (slice left : Nat)
  | gone
  deriving DecidableEq, Repr

/-- A thread that runs the cycles of a sensor. -/
structure Thread (σ : Type) where
  name : String
  sensor : σ
  interval : Nat
  phase : ThreadPhase

/-- What a step of a thread did that others can notice. -/
inductive ThreadEvent where
  | polled (result : CycleEnd)
  | slept (slice : Nat)
  deriving DecidableEq, Repr

namespace Thread

variable {σ : Type}

/-- The longest time that a thread sleeps without looking at the flag. -/
def sliceLimit : Nat := 500

/-- What a thread does after a cycle. -/
def phaseAfter (interval : Nat) : CycleEnd → ThreadPhase
  | .proceed => .resting interval
  | .shutdown => .gone
  | .crashed => .gone

/-- The phase after a look at the flag. -/
def look (running : Bool) : ThreadPhase → ThreadPhase
  | .checking => if running then .polling else .gone
  | .resting left =>
    if running && 0 < left then .sleeping (min left sliceLimit) (left - min left sliceLimit)
    else .checking
  | phase => phase

/-- One step of a thread, with the flag as it is and the way that cycles run. -/
def step {m : Type → Type} [Monad m] (poll : σ → m (CycleEnd × σ)) (running : Bool)
    (t : Thread σ) : m (Thread σ × Option ThreadEvent) := do
  match t.phase with
  | .polling =>
    let (result, sensor) ← poll t.sensor
    return ({ t with sensor, phase := phaseAfter t.interval result }, some (.polled result))
  | .sleeping slice left => return ({ t with phase := .resting left }, some (.slept slice))
  | phase => return ({ t with phase := look running phase }, none)

def isGone (t : Thread σ) : Bool := t.phase = .gone

theorem step_gone {m : Type → Type} [Monad m] (poll : σ → m (CycleEnd × σ)) (running : Bool)
    (t : Thread σ) (h : t.phase = .gone) : t.step poll running = pure (t, none) := by
  obtain ⟨name, sensor, interval, phase⟩ := t
  subst h
  rfl

theorem gone_after_clear (poll : σ → Id (CycleEnd × σ)) (t : Thread σ) :
    ((((t.step poll false).1.step poll false).1.step poll false).1.step poll false).1.phase =
      .gone := by
  obtain ⟨name, sensor, interval, phase⟩ := t
  cases phase with
  | polling =>
    have h : (Thread.mk name sensor interval .polling).step poll false =
        (⟨name, (poll sensor).2, interval, phaseAfter interval (poll sensor).1⟩,
          some (.polled (poll sensor).1)) := rfl
    rw [h]
    cases (poll sensor).1 <;> rfl
  | checking => rfl
  | resting left => rfl
  | sleeping slice left => rfl
  | gone => rfl

end Thread
end HealthAgent
