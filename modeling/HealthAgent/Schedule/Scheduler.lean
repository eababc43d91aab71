import HealthAgent.Schedule.Thread
/-!
# The scheduler of sensors (specification §B.1)

Sensors are registered and then either run once in order or started, each on a thread of its own.
A stop clears the flag and waits until every thread has ended.

Results:
* `count_start`: starting the registered sensors does not change their number.
* `stop_threads`: after a stop no thread is left, so no further cycle runs.
-/
namespace HealthAgent

/-- A sensor that is to run with a rest of `interval` milliseconds between its cycles. -/
structure Registration (σ : Type) where
  name : String
  sensor : σ
  interval : Nat

/-- The sensors that wait to be started, and the threads of those that were. -/
structure Scheduler (σ : Type) where
  pending : List (Registration σ)
  /-- The flag that the threads look at. -/
  running : Bool
  threads : List (Thread σ)

namespace Scheduler

variable {σ : Type}

def empty : Scheduler σ := ⟨[], false, []⟩

def add (s : Scheduler σ) (r : Registration σ) : Scheduler σ :=
  { s with pending := s.pending ++ [r] }

/-- The number of sensors that were not stopped. -/
def count (s : Scheduler σ) : Nat := s.pending.length + s.threads.length

/-- The number of threads that have not ended. -/
def activeCount (s : Scheduler σ) : Nat := (s.threads.filter (!·.isGone)).length

/-- Runs one cycle of every registered sensor, in order. -/
def runOnce {m : Type → Type} [Monad m] (poll : σ → m (CycleEnd × σ)) (s : Scheduler σ) :
    m (List (String × CycleEnd) × Scheduler σ) := do
  let results ← s.pending.mapM fun r => do
    let (result, sensor) ← poll r.sensor
    return ((r.name, result), { r with sensor })
  return (results.map (·.1), { s with pending := results.map (·.2) })

/-- The thread that a registered sensor gets. -/
def threadOf (r : Registration σ) : Thread σ := ⟨r.name, r.sensor, r.interval, .checking⟩

/-- Sets the flag and gives every registered sensor a thread. -/
def start (s : Scheduler σ) : Scheduler σ :=
  ⟨[], true, s.threads ++ s.pending.map threadOf⟩

def clearFlag (s : Scheduler σ) : Scheduler σ := { s with running := false }

/-- One step of the thread at a place. -/
def stepAt {m : Type → Type} [Monad m] (poll : σ → m (CycleEnd × σ)) (s : Scheduler σ)
    (place : Nat) : m (Scheduler σ × Option ThreadEvent) := do
  match s.threads[place]? with
  | some t =>
    let (t, event) ← t.step poll s.running
    return ({ s with threads := s.threads.set place t }, event)
  | none => return (s, none)

/-- One step of every thread, in order. -/
def advance {m : Type → Type} [Monad m] (poll : σ → m (CycleEnd × σ)) (s : Scheduler σ) :
    m (Scheduler σ) := do
  let threads ← s.threads.mapM fun t => return (← t.step poll s.running).1
  return { s with threads }

/-- Steps of every thread, `rounds` times. -/
def advanceBy {m : Type → Type} [Monad m] (poll : σ → m (CycleEnd × σ)) :
    Nat → Scheduler σ → m (Scheduler σ)
  | 0, s => return s
  | n + 1, s => do advanceBy poll n (← s.advance poll)

/-- Steps of every thread until a condition holds, at most `rounds` times; tells whether it does. -/
def advanceUntil {m : Type → Type} [Monad m] (poll : σ → m (CycleEnd × σ))
    (done : Scheduler σ → m Bool) : Nat → Scheduler σ → m (Bool × Scheduler σ)
  | 0, s => return (← done s, s)
  | n + 1, s => do
    if ← done s then return (true, s) else advanceUntil poll done n (← s.advance poll)

/-- Clears the flag and lets every thread come to its end, which takes a cycle in progress and three
steps. -/
def stop {m : Type → Type} [Monad m] (poll : σ → m (CycleEnd × σ)) (s : Scheduler σ) :
    m (Scheduler σ) := do
  let s ← s.clearFlag.advanceBy poll 4
  return { s with threads := s.threads.filter (!·.isGone) }

theorem count_start (s : Scheduler σ) : s.start.count = s.count := by
  simp [start, count, Nat.add_comm]

theorem advance_eq (poll : σ → Id (CycleEnd × σ)) (s : Scheduler σ) :
    s.advance poll = { s with threads := s.threads.map fun t => (t.step poll s.running).1 } :=
  congrArg (fun threads => ({ s with threads } : Scheduler σ))
    (List.idRun_mapM (l := s.threads) (f := fun t => ((t.step poll s.running).1 : Id (Thread σ))))

theorem stop_threads (poll : σ → Id (CycleEnd × σ)) (s : Scheduler σ) :
    (s.stop poll).threads = [] := by
  have h : (s.stop poll).threads =
      (((((s.clearFlag.advance poll).advance poll).advance poll).advance poll).threads).filter
        (!·.isGone) := rfl
  rw [h]
  simp only [advance_eq, clearFlag, List.map_map, List.filter_eq_nil_iff, List.mem_map]
  rintro _ ⟨t, _, rfl⟩
  simp [Thread.isGone, Thread.gone_after_clear]

end Scheduler
end HealthAgent
