import HealthAgent.Schedule.Scheduler
import Mathlib.Algebra.GroupWithZero.Nat
/-!
# The turns of a thread

What a thread does in a turn depends on its phase and, if it looks at the flag, on the flag. A turn that
finds the flag set takes as much from the rest that is left as it sleeps; a turn that finds it cleared
brings the thread closer to its end.

Results:
* `Turn.cases`: what a turn does.
* `Turn.rest`: what is slept in a turn is taken from the rest that is left.
* `Turn.bounded`: no slice is longer than the limit.
* `Turn.steps_left`: with the flag cleared, a thread ends within three turns.
-/
namespace HealthAgent

namespace ThreadPhase

/-- The time that is left of a rest. -/
def rest : ThreadPhase → Nat
  | resting left => left
  | sleeping slice left => slice + left
  | checking | polling | gone => 0

/-- The turns that a thread has left once the flag is cleared. -/
def stepsLeft : ThreadPhase → Nat
  | gone => 0
  | checking => 1
  | resting _ => 2
  | polling => 3
  | sleeping .. => 3

theorem stepsLeft_le (p : ThreadPhase) : p.stepsLeft ≤ 3 := by
  cases p <;> simp [stepsLeft]

theorem gone_of_stepsLeft {p : ThreadPhase} (h : p.stepsLeft ≤ 0) : p = gone := by
  cases p <;> simp_all [stepsLeft]

/-- A slice in progress is not longer than the limit. -/
def Bounded (p : ThreadPhase) : Prop := ∀ slice left, p = sleeping slice left → slice ≤ Thread.sliceLimit

/-- What a thread may still do, from this phase on, once the flag is cleared: finish the cycle or the
slice that it is about to begin. -/
def Finishes (p : ThreadPhase) (events : List ThreadEvent) : Prop :=
  events = [] ∨ (∃ result, p = polling ∧ events = [.polled result]) ∨
    ∃ slice left, p = sleeping slice left ∧ events = [.slept slice]

theorem Finishes.nil {p : ThreadPhase} {events : List ThreadEvent} (h : p.Finishes events)
    (hpolling : p ≠ polling) (hsleeping : ∀ slice left, p ≠ sleeping slice left) : events = [] := by
  rcases h with rfl | ⟨result, hp, -⟩ | ⟨slice, left, hp, -⟩
  · rfl
  · exact absurd hp hpolling
  · exact absurd hp (hsleeping slice left)

theorem Finishes.polled {p : ThreadPhase} {events : List ThreadEvent} {result : CycleEnd}
    (h : p.Finishes (events ++ [.polled result])) : p = polling ∧ events = [] := by
  rcases h with hnil | ⟨result', hp, hone⟩ | ⟨slice, left, hp, hone⟩
  · simp at hnil
  · exact ⟨hp, (List.append_eq_singleton_iff.1 hone).elim (·.1) (by simp)⟩
  · have hlast := congrArg List.getLast? hone
    simp at hlast

end ThreadPhase

namespace ThreadEvent

def slice : ThreadEvent → Nat
  | slept slice => slice
  | polled _ => 0

def isPoll : ThreadEvent → Bool
  | polled _ => true
  | slept _ => false

end ThreadEvent

namespace Thread

variable {σ : Type} {running : Bool} {t t' : Thread σ} {event : Option ThreadEvent}

/-- A turn of a thread, whichever way a cycle runs in it. -/
def Turn (running : Bool) (t : Thread σ) (event : Option ThreadEvent) (t' : Thread σ) : Prop :=
  ∃ poll : σ → Id (CycleEnd × σ), t.step poll running = (t', event)

namespace Turn

/-- What a turn does: it runs a cycle, sleeps a slice or looks at the flag. -/
theorem cases (h : t.Turn running event t') :
    (∃ result sensor, t.phase = .polling ∧ event = some (.polled result) ∧
      t' = { t with sensor, phase := phaseAfter t.interval result }) ∨
    (∃ slice left, t.phase = .sleeping slice left ∧ event = some (.slept slice) ∧
      t' = { t with phase := .resting left }) ∨
    ((t.phase = .checking ∨ t.phase = .gone ∨ ∃ left, t.phase = .resting left) ∧ event = none ∧
      t' = { t with phase := look running t.phase }) := by
  obtain ⟨poll, hstep⟩ := h
  obtain ⟨name, sensor, interval, phase⟩ := t
  cases phase with
  | polling =>
    cases hstep
    exact .inl ⟨(poll sensor).1, (poll sensor).2, rfl, rfl, rfl⟩
  | sleeping slice left =>
    cases hstep
    exact .inr (.inl ⟨slice, left, rfl, rfl, rfl⟩)
  | checking =>
    cases hstep
    exact .inr (.inr ⟨.inl rfl, rfl, rfl⟩)
  | gone =>
    cases hstep
    exact .inr (.inr ⟨.inr (.inl rfl), rfl, rfl⟩)
  | resting left =>
    cases hstep
    exact .inr (.inr ⟨.inr (.inr ⟨left, rfl⟩), rfl, rfl⟩)

theorem polling (h : t.Turn running event t') (hp : t.phase = .polling) :
    ∃ result, event = some (.polled result) := by
  rcases h.cases with ⟨result, -, -, hevent, -⟩ | ⟨slice, left, hp', -⟩ | ⟨hp', -⟩
  · exact ⟨result, hevent⟩
  · rw [hp] at hp'
    cases hp'
  · simp [hp] at hp'

theorem interval (h : t.Turn running event t') : t'.interval = t.interval := by
  rcases h.cases with ⟨result, sensor, -, -, rfl⟩ | ⟨slice, left, -, -, rfl⟩ | ⟨-, -, rfl⟩
  · rfl
  · rfl
  · rfl

theorem gone (h : t.Turn running event t') (hgone : t.phase = .gone) : event = none ∧ t' = t := by
  obtain ⟨poll, hstep⟩ := h
  rw [step_gone poll running t hgone] at hstep
  cases hstep
  exact ⟨rfl, rfl⟩

/-- What is slept in a turn is taken from the rest that is left, if no cycle is run and the flag is
set. -/
theorem rest (h : t.Turn true event t') (hpoll : ∀ e ∈ event, e.isPoll = false) :
    t.phase.rest = (event.toList.map (·.slice)).sum + t'.phase.rest := by
  rcases h.cases with ⟨result, sensor, -, rfl, -⟩ | ⟨slice, left, hp, rfl, rfl⟩ | ⟨hp, rfl, rfl⟩
  · exact absurd (hpoll _ rfl) (by simp [ThreadEvent.isPoll])
  · simp [hp, ThreadPhase.rest, ThreadEvent.slice]
  · rcases hp with hp | hp | ⟨left, hp⟩
    · simp [hp, look, ThreadPhase.rest]
    · simp [hp, look, ThreadPhase.rest]
    · by_cases hleft : 0 < left
      · have hlook : look true (.resting left) =
            .sleeping (min left sliceLimit) (left - min left sliceLimit) := by simp [look, hleft]
        rw [hp, hlook]
        change left = 0 + (min left sliceLimit + (left - min left sliceLimit))
        omega
      · obtain rfl : left = 0 := by omega
        simp [hp, look, ThreadPhase.rest]

theorem bounded (h : t.Turn running event t') (hb : t.phase.Bounded) :
    t'.phase.Bounded ∧ ∀ e ∈ event, e.slice ≤ sliceLimit := by
  rcases h.cases with ⟨result, sensor, -, rfl, rfl⟩ | ⟨slice, left, hp, rfl, rfl⟩ | ⟨hp, rfl, rfl⟩
  · refine ⟨?_, by simp [ThreadEvent.slice]⟩
    intro slice left hphase
    cases result <;> cases hphase
  · refine ⟨?_, by simpa [ThreadEvent.slice] using hb slice left hp⟩
    intro slice' left' hphase
    cases hphase
  · refine ⟨?_, by simp⟩
    intro slice left hphase
    rcases hp with hp | hp | ⟨left, hp⟩
    · cases running <;> simp [hp, look] at hphase
    · simp [hp, look] at hphase
    · simp only [hp, look] at hphase
      split at hphase
      · cases hphase
        exact Nat.min_le_right _ _
      · cases hphase

/-- With the flag cleared, each turn brings a thread closer to its end. -/
theorem steps_left (h : t.Turn false event t') : t'.phase.stepsLeft ≤ t.phase.stepsLeft - 1 := by
  rcases h.cases with ⟨result, sensor, hp, -, rfl⟩ | ⟨slice, left, hp, -, rfl⟩ | ⟨hp, -, rfl⟩
  · rw [hp]
    cases result <;> simp [phaseAfter, ThreadPhase.stepsLeft]
  · simp [hp, ThreadPhase.stepsLeft]
  · rcases hp with hp | hp | ⟨left, hp⟩ <;> simp [hp, look, ThreadPhase.stepsLeft]

/-- With the flag cleared, a thread finishes the cycle or the slice that it is about to begin, and
begins no other. -/
theorem finishes (h : t.Turn false event t') {events : List ThreadEvent}
    (hrest : t'.phase.Finishes events) : t.phase.Finishes (event.toList ++ events) := by
  rcases h.cases with ⟨result, sensor, hp, rfl, rfl⟩ | ⟨slice, left, hp, rfl, rfl⟩ | ⟨hp, rfl, rfl⟩
  · have hnil : events = [] := hrest.nil (by cases result <;> simp [phaseAfter])
      (by cases result <;> simp [phaseAfter])
    exact .inr (.inl ⟨result, hp, by rw [hnil]; rfl⟩)
  · have hnil : events = [] := hrest.nil (by simp) (by simp)
    exact .inr (.inr ⟨slice, left, hp, by rw [hnil]; rfl⟩)
  · refine .inl (hrest.nil ?_ ?_)
    · rcases hp with hp | hp | ⟨left, hp⟩ <;> simp [hp, look]
    · rcases hp with hp | hp | ⟨left, hp⟩ <;> simp [hp, look]

end Turn
end Thread
end HealthAgent
