import HealthAgent.Proofs.Schedule.Crew
/-!
# Threads in any order

Whatever the order in which the threads of a scheduler take their turns, a shutdown ends one thread and
no other, a thread sleeps for its interval between two cycles, and a cleared flag lets each thread finish
what it is about to begin and no more.

Results:
* `Run.gone_silent`: a thread that has ended does nothing more.
* `Run.finishes`: once the flag is cleared, a thread finishes what it is about to begin.
* `Run.whole_rest`: up to its next cycle, a thread sleeps through all that is left of its rest.
* `Run.after_stop`: once a stop has returned, only threads that are started later take turns.
* `threads_safe`: all of it, for every run.
* `exists_stop`: a stop can always return.
-/
namespace HealthAgent

variable {σ : Type}

namespace Crew

variable {c d e : Crew σ} {place : Nat} {t : Thread σ} {x : Happening σ} {hs : List (Happening σ)}

/-! ## What a run does -/

namespace Run

theorem append {hs' : List (Happening σ)} (h : Run c hs d) (h' : Run d hs' e) : Run c (hs ++ hs') e := by
  induction h with
  | nil c => exact h'
  | cons hstep _ ih => exact .cons hstep (ih h')

theorem append_iff {hs' : List (Happening σ)} :
    Run c (hs ++ hs') e ↔ ∃ d, Run c hs d ∧ Run d hs' e := by
  constructor
  · intro h
    induction hs generalizing c with
    | nil => exact ⟨c, .nil c, h⟩
    | cons x hs ih =>
      obtain _ | ⟨hstep, hrun⟩ := h
      obtain ⟨d, hfirst, hsecond⟩ := ih hrun
      exact ⟨d, .cons hstep hfirst, hsecond⟩
  · rintro ⟨d, hfirst, hsecond⟩
    exact hfirst.append hsecond

theorem accounts {rs : List (Registration σ)} (h : Run c hs d) (hc : c.Accounts rs) :
    d.Accounts (rs ++ registered hs) := by
  induction h generalizing rs with
  | nil c => simpa [registered] using hc
  | @cons c d e x hs hstep _ ih =>
    rw [registered_cons, ← List.append_assoc]
    exact ih (hstep.accounts hc)

theorem guarded (h : Run c hs d) (hsignal : .signalled ∉ hs) (hc : c.Guarded) : d.Guarded := by
  induction h with
  | nil c => exact hc
  | cons hstep _ ih =>
    exact ih (List.not_mem_of_not_mem_cons hsignal)
      (hstep.guarded (Ne.symm (List.ne_of_not_mem_cons hsignal)) hc)

theorem place_of_turn (h : Run c hs d) {event : Option ThreadEvent}
    (hmem : .turn place event ∈ hs ∨ place < c.threads.length) : place < d.threads.length := by
  induction h with
  | nil c => exact hmem.resolve_left List.not_mem_nil
  | cons hstep _ ih =>
    refine ih ?_
    rcases hmem with hmem | hlt
    · rcases List.mem_cons.1 hmem with rfl | hlater
      · obtain ⟨-, t, -, ht, -⟩ := Step.turn_iff.1 hstep
        exact .inr (hstep.stays (List.getElem?_eq_some_iff.1 ht).1)
      · exact .inl hlater
    · exact .inr (hstep.stays hlt)

theorem gone_silent (h : Run c hs d) (ht : c.threads[place]? = some t) (hgone : t.phase = .gone) :
    eventsOf place hs = [] := by
  induction h generalizing t with
  | nil c => rfl
  | @cons c d e x hs hstep _ ih =>
    rcases hstep.thread ht with ⟨event, t', rfl, hturn, ht'⟩ | ⟨hother, ht'⟩
    · obtain ⟨rfl, rfl⟩ := hturn.gone hgone
      rw [eventsOf_turn, ih ht' hgone]
      rfl
    · rw [eventsOf_other hother, ih ht' hgone]

/-- A thread that a stop has waited for takes no turn. -/
theorem past_still (h : Run c hs d) (hpast : place < c.past.length) :
    (∀ x ∈ hs, x.isTurn place = false) ∧ d.threads[place]? = c.threads[place]? := by
  induction h with
  | nil c => exact ⟨by simp, rfl⟩
  | cons hstep _ ih =>
    obtain ⟨hx, hsame, hpast'⟩ := hstep.past hpast
    obtain ⟨hnone, hend⟩ := ih hpast'
    exact ⟨List.forall_mem_cons.2 ⟨hx, hnone⟩, hend.trans hsame⟩

/-- Without a start, no thread comes into being. -/
theorem unstarted (h : Run c hs d) (hstart : .started ∉ hs) (hplace : c.threads.length ≤ place) :
    ∀ x ∈ hs, x.isTurn place = false := by
  induction h with
  | nil c => simp
  | @cons c d e x hs hstep _ ih =>
    refine List.forall_mem_cons.2 ⟨?_, ih (List.not_mem_of_not_mem_cons hstart) ?_⟩
    · cases x with
      | turn p event =>
        obtain ⟨-, t, -, ht, -⟩ := Step.turn_iff.1 hstep
        have hlt := (List.getElem?_eq_some_iff.1 ht).1
        simp only [Happening.isTurn, decide_eq_false_iff_not]
        omega
      | _ => rfl
    · rw [hstep.unstarted (Ne.symm (List.ne_of_not_mem_cons hstart))]
      exact hplace

/-- What can happen besides, the thread at a place does not decide until a stop returns. -/
theorem put (h : Run c hs d) (hplace : c.past.length ≤ place) (hlt : place < c.threads.length)
    (hturn : ∀ x ∈ hs, x.isTurn place = false) (hstop : .stopped ∉ hs) (t : Thread σ) :
    Run (c.put place t) hs (d.put place t) := by
  induction h with
  | nil c => exact .nil _
  | @cons c d e x hs hstep _ ih =>
    obtain ⟨hx, hrest⟩ := List.forall_mem_cons.1 hturn
    obtain ⟨hput, hpast⟩ :=
      hstep.put hplace hlt hx (Ne.symm (List.ne_of_not_mem_cons hstop)) t
    exact .cons hput
      (ih (hpast ▸ hplace) (hstep.stays hlt) hrest (List.not_mem_of_not_mem_cons hstop))

/-- When a stop has returned, no thread from before takes a turn. -/
theorem after_stopped (h : Run d hs e) (hstep : Step c .stopped d)
    (ht : c.threads[place]? = some t) :
    (∀ x ∈ hs, x.isTurn place = false) ∧ e.threads[place]? = some t := by
  obtain ⟨-, rfl⟩ := Step.stopped_iff.1 hstep
  obtain ⟨hnone, hend⟩ := h.past_still (List.getElem?_eq_some_iff.1 ht).1
  refine ⟨hnone, hend.trans ?_⟩
  simpa [threads] using ht

/-- Once the flag is cleared, a thread finishes what it is about to begin, and ends within three turns. -/
theorem finishes (h : Run c hs d) (hc : c.Halted hs) (ht : c.threads[place]? = some t) :
    t.phase.Finishes (eventsOf place hs) ∧ ∃ t', d.threads[place]? = some t' ∧
      t'.phase.stepsLeft ≤ t.phase.stepsLeft - turnsOf place hs := by
  induction h generalizing t with
  | nil c => exact ⟨.inl rfl, t, ht, Nat.le_refl _⟩
  | @cons c d e x hs hstep hrun ih =>
    rcases hstep.halted hc with rfl | hd
    · obtain ⟨hnone, hend⟩ := hrun.after_stopped hstep ht
      have hstill : ∀ x ∈ .stopped :: hs, Happening.isTurn place x = false :=
        List.forall_mem_cons.2 ⟨rfl, hnone⟩
      rw [eventsOf_of_still hstill, turnsOf_of_still hstill]
      exact ⟨.inl rfl, t, hend, Nat.le_refl _⟩
    · rcases hstep.thread ht with ⟨event, t', rfl, hturn, ht'⟩ | ⟨hother, ht'⟩
      · rw [hc.1] at hturn
        obtain ⟨hfinishes, t'', ht'', hleft⟩ := ih hd ht'
        have hcloser := hturn.steps_left
        rw [eventsOf_turn, turnsOf_turn]
        exact ⟨hturn.finishes hfinishes, t'', ht'', by omega⟩
      · rw [eventsOf_other hother, turnsOf_other hother]
        exact ih hd ht'

/-- Up to its next cycle, a thread sleeps through all that is left of its rest, unless the flag is
cleared and set again on the way. -/
theorem whole_rest {result : CycleEnd}
    (h : Run c (hs ++ [.turn place (some (.polled result))]) d) (ht : c.threads[place]? = some t)
    (hflag : .started ∉ hs ∨ (c.Guarded ∧ .signalled ∉ hs))
    (hrests : ∀ e ∈ eventsOf place hs, e.isPoll = false) :
    ((eventsOf place hs).map (·.slice)).sum = t.phase.rest := by
  induction hs generalizing c t with
  | nil =>
    obtain _ | ⟨hstep, -⟩ := h
    obtain ⟨-, u, u', hu, hturn, -⟩ := Step.turn_iff.1 hstep
    rw [ht] at hu
    cases hu
    rcases hturn.cases with ⟨-, -, hp, -⟩ | ⟨slice, left, -, hevent, -⟩ | ⟨-, hevent, -⟩
    · rw [hp]
      rfl
    · cases hevent
    · cases hevent
  | cons x hs ih =>
    have hrun := h
    obtain _ | @⟨_, c', _, _, _, hstep, hrest⟩ := h
    have hflag' : .started ∉ hs ∨ (c'.Guarded ∧ .signalled ∉ hs) :=
      hflag.imp List.not_mem_of_not_mem_cons fun ⟨hguarded, hsignal⟩ =>
        ⟨hstep.guarded (Ne.symm (List.ne_of_not_mem_cons hsignal)) hguarded,
          List.not_mem_of_not_mem_cons hsignal⟩
    rcases hstep.thread ht with ⟨event, t', rfl, hturn, ht'⟩ | ⟨hother, ht'⟩
    · rw [eventsOf_turn] at hrests ⊢
      have hone : ∀ e ∈ event, e.isPoll = false := fun e he =>
        hrests e (List.mem_append_left _ (Option.mem_toList.2 he))
      have hmore := ih hrest ht' hflag' fun e he => hrests e (List.mem_append_right _ he)
      cases hrunning : c.scheduler.running with
      | true =>
        rw [hrunning] at hturn
        rw [List.map_append, List.sum_append, hmore]
        exact (hturn.rest hone).symm
      | false =>
        -- The thread has seen the flag cleared, so that this turn is its last cycle.
        have hhalted : c.Halted (.turn place event :: hs ++ [.turn place (some (.polled result))]) := by
          refine ⟨hrunning, ?_⟩
          rcases hflag with hstart | ⟨hguarded, -⟩
          · exact .inl (by simpa using hstart)
          · refine .inr ((hguarded hrunning).resolve_right fun hnone => ?_)
            obtain ⟨hplace, -⟩ := Step.turn_iff.1 hstep
            have hlt := (List.getElem?_eq_some_iff.1 ht).1
            simp only [threads, hnone, List.append_nil] at hlt
            omega
        have hlast : t.phase.Finishes (event.toList ++ eventsOf place hs ++ [.polled result]) := by
          have hall := (hrun.finishes hhalted ht).1
          rwa [eventsOf, List.filterMap_append, ← eventsOf, eventsOf_turn, ← eventsOf,
            eventsOf_turn] at hall
        obtain ⟨hpolling, hnil⟩ := hlast.polled
        obtain ⟨r, rfl⟩ := hturn.polling hpolling
        simp at hnil
    · rw [eventsOf_other hother] at hrests ⊢
      exact ih hrest ht' hflag' hrests

theorem from_empty (h : Run .empty hs c) :
    c.Accounts (registered hs) ∧ (.signalled ∉ hs → c.Guarded) := by
  have hempty : Accounts (.empty : Crew σ) [] :=
    ⟨fun t ht => absurd ht List.not_mem_nil, rfl⟩
  refine ⟨by simpa using h.accounts hempty, fun hsignal => h.guarded hsignal ?_⟩
  exact fun _ => .inr rfl

theorem slices {rs : List (Registration σ)} (h : Run c hs d) (hc : c.Accounts rs) :
    ∀ e ∈ eventsOf place hs, e.slice ≤ Thread.sliceLimit := by
  induction h generalizing rs with
  | nil c => simp [eventsOf]
  | @cons c d e x hs hstep _ ih =>
    have hrest := ih (hstep.accounts hc)
    by_cases hx : ∃ event, x = .turn place event
    · obtain ⟨event, rfl⟩ := hx
      obtain ⟨-, t, t', ht, hturn, -⟩ := Step.turn_iff.1 hstep
      have hone := (hturn.bounded (hc.bounded t (List.mem_of_getElem? ht))).2
      rw [eventsOf_turn]
      intro ev hev
      rcases List.mem_append.1 hev with hfirst | hlater
      · exact hone ev (Option.mem_toList.1 hfirst)
      · exact hrest ev hlater
    · have hother : x.isTurn place = false := by
        cases x with
        | turn p event =>
          simp only [Happening.isTurn, decide_eq_false_iff_not]
          rintro rfl
          exact hx ⟨event, rfl⟩
        | _ => rfl
      rw [eventsOf_other hother]
      exact hrest

end Run

/-! ## Every run -/

/-- What can happen besides the turns of the thread at a place, until a stop returns, is the same in
both crews. -/
def Indifferent (place : Nat) (c d : Crew σ) : Prop :=
  ∀ hs, (∀ x ∈ hs, x.isTurn place = false) → .stopped ∉ hs → ((∃ e, Run c hs e) ↔ ∃ e, Run d hs e)

/-- A turn of a thread leaves the flag and the other threads as they are and does not decide what else
can happen. -/
theorem Step.indifferent {event : Option ThreadEvent} (h : Step c (.turn place event) d) :
    d.scheduler.running = c.scheduler.running ∧
      (∀ other, other ≠ place → d.threads[other]? = c.threads[other]?) ∧ Indifferent place c d := by
  obtain ⟨hplace, t, t', ht, -, rfl⟩ := Step.turn_iff.1 h
  have hlt : place < c.threads.length := (List.getElem?_eq_some_iff.1 ht).1
  refine ⟨rfl, fun other hne => ?_, fun hs hturns hstop => ⟨?_, ?_⟩⟩
  · rw [threads_put hplace, List.getElem?_set_ne (Ne.symm hne)]
  · rintro ⟨e, hrun⟩
    exact ⟨_, hrun.put hplace hlt hturns hstop t'⟩
  · rintro ⟨e, hrun⟩
    have hlt' : place < (c.put place t').threads.length := by
      rwa [threads_put hplace, List.length_set]
    have hback := hrun.put hplace hlt' hturns hstop t
    rw [put_put, put_self hplace ht] at hback
    exact ⟨_, hback⟩

/-- A thread whose cycle ended in a shutdown does nothing more. -/
theorem Run.after_shutdown (h : Run c (.turn place (some (.polled .shutdown)) :: hs) d) :
    eventsOf place hs = [] ∧
      ∃ c', Step c (.turn place (some (.polled .shutdown))) c' ∧ Run c' hs d := by
  obtain _ | ⟨hstep, hrest⟩ := h
  obtain ⟨t, ht, hgone⟩ := hstep.polled
  exact ⟨hrest.gone_silent ht hgone, _, hstep, hrest⟩

theorem Run.between_cycles {rs : List (Registration σ)} {first second : CycleEnd}
    {rest : List (Happening σ)} (hc : c.Accounts rs)
    (h : Run c (.turn place (some (.polled first)) ::
      (hs ++ .turn place (some (.polled second)) :: rest)) d)
    (hrests : ∀ e ∈ eventsOf place hs, e.isPoll = false)
    (hflag : .started ∉ hs ∨ (c.Guarded ∧ .signalled ∉ hs)) :
    ∃ r, rs[place]? = some r ∧ ((eventsOf place hs).map (·.slice)).sum = r.interval := by
  obtain _ | @⟨_, c', _, _, _, hstep, hrun⟩ := h
  rw [List.append_cons] at hrun
  obtain ⟨d', hcycle, -⟩ := append_iff.1 hrun
  obtain ⟨t, ht, hphase⟩ := hstep.polled
  have hslept : ((eventsOf place hs).map (·.slice)).sum = t.phase.rest :=
    hcycle.whole_rest ht (hflag.imp_right (.imp_left (hstep.guarded (by simp)))) hrests
  have hactive : t.phase ≠ .gone := by
    intro hgone
    have hsilent := hcycle.gone_silent ht hgone
    simp [eventsOf, Happening.eventOf] at hsilent
  obtain ⟨r, hr, hinterval⟩ := (hstep.accounts hc).interval ht
  simp only [Happening.registration?, Option.toList_none, List.append_nil] at hr
  refine ⟨r, hr, ?_⟩
  rw [hphase] at hactive
  rw [hslept, hphase, ← hinterval]
  cases first with
  | proceed => rfl
  | shutdown => exact absurd rfl hactive
  | crashed => exact absurd rfl hactive

/-- Once a stop has returned, only threads that are started later take turns. -/
theorem Run.after_stop (hstep : Step c .stopped d) (h : Run d hs e) :
    (∀ place, place < c.threads.length → ∀ x ∈ hs, x.isTurn place = false) ∧
      (.started ∉ hs → ∀ place, ∀ x ∈ hs, x.isTurn place = false) := by
  obtain ⟨-, rfl⟩ := Step.stopped_iff.1 hstep
  refine ⟨fun place hlt => (h.past_still hlt).1, fun hstart place => ?_⟩
  rcases Nat.lt_or_ge place c.threads.length with hlt | hge
  · exact (h.past_still hlt).1
  · exact h.unstarted hstart (by simpa [threads] using hge)

end Crew
open Crew

/-- In every run of a crew, split anywhere:
* a thread whose cycle ended in a shutdown does nothing more, and that cycle leaves the flag and the
  other threads, and what these can do, as they are;
* between two cycles of a thread all its slices are short and add up to the interval of its sensor,
  unless a signal clears the flag and a start sets it in between;
* while the flag is cleared a thread does no more than to finish the cycle or the slice that it was
  about to begin, and it ends within three turns; a sensor without a thread gets none;
* once a stop has returned, no thread from before takes a turn, and no thread at all before a start. -/
theorem threads_safe {before after : List (Happening σ)} {c d : Crew σ}
    (hbefore : Run .empty before c) (hafter : Run c after d) :
    (∀ place rest, after = .turn place (some (.polled .shutdown)) :: rest →
      eventsOf place rest = [] ∧
        ∃ c', Step c (.turn place (some (.polled .shutdown))) c' ∧ Run c' rest d ∧
          c'.scheduler.running = c.scheduler.running ∧
          (∀ other, other ≠ place → c'.threads[other]? = c.threads[other]?) ∧
          Indifferent place c c') ∧
    (∀ place first between second rest,
      after = .turn place (some (.polled first)) ::
        (between ++ .turn place (some (.polled second)) :: rest) →
      (∀ e ∈ eventsOf place between, e.isPoll = false) →
      .started ∉ between ∨ .signalled ∉ before ++ between →
      (∀ e ∈ eventsOf place between, e.slice ≤ 500) ∧
        ∃ r, (registered before)[place]? = some r ∧
          ((eventsOf place between).map (·.slice)).sum = r.interval) ∧
    (c.scheduler.running = false → .started ∉ after ∨ c.stopping = true →
      (∀ place t, c.threads[place]? = some t → t.phase.Finishes (eventsOf place after) ∧
        (3 ≤ turnsOf place after → ∃ t', d.threads[place]? = some t' ∧ t'.phase = .gone)) ∧
      (.started ∉ after → ∀ place, c.threads.length ≤ place → eventsOf place after = [])) ∧
    (∀ earlier, before = earlier ++ [.stopped] →
      (∀ place event event', .turn place event ∈ earlier → .turn place event' ∉ after) ∧
      (.started ∉ after → ∀ place event, .turn place event ∉ after)) := by
  obtain ⟨haccounts, hguarded⟩ := hbefore.from_empty
  refine ⟨?_, ?_, ?_, ?_⟩
  · rintro place rest rfl
    obtain ⟨hsilent, c', hstep, hrest⟩ := hafter.after_shutdown
    exact ⟨hsilent, c', hstep, hrest, hstep.indifferent⟩
  · rintro place first between second rest rfl hrests hflag
    have hslept := hafter.between_cycles haccounts hrests (hflag.imp_right fun hsignal =>
      ⟨hguarded fun hmem => hsignal (List.mem_append_left _ hmem),
        fun hmem => hsignal (List.mem_append_right _ hmem)⟩)
    refine ⟨fun e he => hafter.slices haccounts e (?_ : e ∈ eventsOf place _), hslept⟩
    rw [eventsOf_turn, eventsOf, List.filterMap_append]
    exact List.mem_append_right _ (List.mem_append_left _ he)
  · intro hflag hstart
    refine ⟨fun place t ht => ?_, fun hnot place hplace =>
      eventsOf_of_still (hafter.unstarted hnot hplace)⟩
    obtain ⟨hfinishes, t', ht', hleft⟩ := hafter.finishes ⟨hflag, hstart⟩ ht
    refine ⟨hfinishes, fun hturns => ⟨t', ht', ThreadPhase.gone_of_stepsLeft ?_⟩⟩
    have hmost := t.phase.stepsLeft_le
    omega
  · rintro earlier rfl
    obtain ⟨c₀, hearlier, hstop⟩ := Run.append_iff.1 hbefore
    obtain _ | ⟨hstep, hnil⟩ := hstop
    cases hnil
    obtain ⟨hold, hall⟩ := Run.after_stop hstep hafter
    constructor
    · intro place event event' hmem hagain
      have hstill := hold place (hearlier.place_of_turn (.inl hmem)) _ hagain
      simp [Happening.isTurn] at hstill
    · intro hstart place event hmem
      have hstill := hall hstart place _ hmem
      simp [Happening.isTurn] at hstill

/-! ## The scheduler's own order -/

namespace Crew

theorem exists_turns (poll : σ → Id (CycleEnd × σ)) (past : List (Thread σ)) (s : Scheduler σ)
    (stopping : Bool) : ∃ hs : List (Happening σ), (∀ x ∈ hs, ∃ place event, x = .turn place event) ∧
      Run ⟨past, s, stopping⟩ hs ⟨past, s.advance poll, stopping⟩ := by
  rw [Scheduler.advance_eq]
  -- The threads in front have taken their turns, those behind have not.
  suffices hsplit : ∀ back front : List (Thread σ), ∃ hs : List (Happening σ),
      (∀ x ∈ hs, ∃ place event, x = .turn place event) ∧
        Run ⟨past, { s with threads := front ++ back }, stopping⟩ hs
          ⟨past, { s with threads := front ++ back.map fun t => (t.step poll s.running).1 },
            stopping⟩ from hsplit s.threads []
  intro back
  induction back with
  | nil => exact fun front => ⟨[], by simp, .nil _⟩
  | cons t back ih =>
    intro front
    obtain ⟨hs, hturns, hrun⟩ := ih (front ++ [(t.step poll s.running).1])
    refine ⟨.turn (past.length + front.length) (t.step poll s.running).2 :: hs, ?_, ?_⟩
    · exact List.forall_mem_cons.2 ⟨⟨_, _, rfl⟩, hturns⟩
    · have hstep : Step ⟨past, { s with threads := front ++ t :: back }, stopping⟩
          (.turn (past.length + front.length) (t.step poll s.running).2)
          ⟨past, { s with threads := front ++ [(t.step poll s.running).1] ++ back }, stopping⟩ := by
        refine Step.turn_iff.2 ⟨by simp, t, (t.step poll s.running).1, ?_, ⟨poll, rfl⟩, ?_⟩
        · simp [threads]
        · simp [put]
      refine .cons hstep ?_
      simpa using hrun

theorem exists_rounds (poll : σ → Id (CycleEnd × σ)) (past : List (Thread σ)) (stopping : Bool)
    (n : Nat) (s : Scheduler σ) :
    ∃ hs : List (Happening σ), (∀ x ∈ hs, ∃ place event, x = .turn place event) ∧
      Run ⟨past, s, stopping⟩ hs ⟨past, Id.run (s.advanceBy poll n), stopping⟩ := by
  induction n generalizing s with
  | zero => exact ⟨[], by simp, .nil _⟩
  | succ n ih =>
    obtain ⟨first, hfirst, hrun⟩ := exists_turns poll past s stopping
    obtain ⟨more, hmore, hrest⟩ := ih (Id.run (s.advance poll))
    refine ⟨first ++ more, fun x hx => ?_, hrun.append hrest⟩
    exact (List.mem_append.1 hx).elim (hfirst x) (hmore x)

/-- A stop can always return: it does if every thread takes four turns. -/
theorem exists_stop (hidle : c.stopping = false) (poll : σ → Id (CycleEnd × σ)) :
    ∃ hs past, (∀ x ∈ hs, ∃ place event, x = .turn place event) ∧
      Run c (.stopping :: (hs ++ [.stopped])) ⟨past, Id.run (c.scheduler.stop poll), false⟩ := by
  obtain ⟨hs, hturns, hrun⟩ := exists_rounds poll c.past true 4 c.scheduler.clearFlag
  have hended := Scheduler.stop_threads poll c.scheduler
  have hstop : Id.run (c.scheduler.stop poll) =
      { Id.run (c.scheduler.clearFlag.advanceBy poll 4) with threads := [] } :=
    congrArg (fun threads => { Id.run (c.scheduler.clearFlag.advanceBy poll 4) with threads }) hended
  have hgone : ∀ t ∈ (Id.run (c.scheduler.clearFlag.advanceBy poll 4)).threads, t.phase = .gone := by
    intro t ht
    have hnot := List.filter_eq_nil_iff.1 hended t ht
    simpa [Thread.isGone] using hnot
  rw [hstop]
  exact ⟨hs, _, hturns, .cons (Step.stopping_iff.2 ⟨hidle, rfl⟩)
    (hrun.append (.cons (Step.stopped_iff.2 ⟨⟨rfl, hgone⟩, rfl⟩) (.nil _)))⟩

end Crew

/-! ## A trial -/

namespace Trial

def scripted : List CycleEnd → Id (CycleEnd × List CycleEnd)
  | [] => (.proceed, [])
  | result :: script => (result, script)

/-- A sensor that goes on and a sensor that shuts down are started. -/
def opening : List (Happening (List CycleEnd)) :=
  [.added ⟨"on", [], 700⟩, .added ⟨"off", [.shutdown], 300⟩, .started, .turn 0 none]

def betweenCycles : List (Happening (List CycleEnd)) :=
  [.turn 1 none, .turn 0 none, .turn 1 (some (.polled .shutdown)), .turn 0 (some (.slept 500)),
    .turn 0 none, .turn 0 (some (.slept 200)), .turn 0 none, .turn 0 none]

def closing : List (Happening (List CycleEnd)) := [.stopping, .turn 0 none, .turn 0 none, .stopped]

end Trial

/-- What becomes of a crew if all happens in turn, with one way that cycles run. -/
def Crew.play (poll : σ → Id (CycleEnd × σ)) (c : Crew σ) : List (Happening σ) → Option (Crew σ)
  | [] => some c
  | x :: hs => (c.step? poll x).bind (·.play poll hs)

theorem Crew.Run.of_play {poll : σ → Id (CycleEnd × σ)} {hs : List (Happening σ)} {c d : Crew σ}
    (h : c.play poll hs = some d) : Run c hs d := by
  induction hs generalizing c with
  | nil =>
    cases h
    exact .nil _
  | cons x hs ih =>
    obtain ⟨c', hstep, hrest⟩ := Option.bind_eq_some_iff.1 h
    exact .cons ⟨poll, hstep⟩ (ih hrest)

theorem threads_safe_scripted :
    (∀ e ∈ eventsOf 0 Trial.betweenCycles, e.slice ≤ 500) ∧
      ∃ r, (registered Trial.opening)[0]? = some r ∧
        ((eventsOf 0 Trial.betweenCycles).map (·.slice)).sum = r.interval := by
  have hopening : (Crew.empty.play Trial.scripted Trial.opening).isSome = true := by decide
  obtain ⟨c, hc⟩ := Option.isSome_iff_exists.1 hopening
  have hcourse : ((Crew.empty.play Trial.scripted Trial.opening).bind (·.play Trial.scripted
      (.turn 0 (some (.polled .proceed)) :: (Trial.betweenCycles ++
        .turn 0 (some (.polled .proceed)) :: Trial.closing)))).isSome = true := by decide
  obtain ⟨d, hd⟩ := Option.isSome_iff_exists.1 hcourse
  rw [hc, Option.bind_some] at hd
  exact (threads_safe (.of_play hc) (.of_play hd)).2.1 0 .proceed _ .proceed _ rfl
    (by decide) (.inl (by simp [Trial.betweenCycles]))

end HealthAgent
