import HealthAgent.Proofs.Schedule.Turns
/-!
# Threads that take turns

The threads of a scheduler take turns in any order, between registrations, starts, stops and signals. A
thread has a place for good: the order in which its sensor was registered. A stop clears the flag and
returns when every thread has ended; until then, nothing can be registered or started.

Results:
* `Step.turn_iff`: a turn changes nothing but its thread.
* `Step.thread`: a step is a turn of a thread or leaves the thread as it is.
* `Step.halted`: a cleared flag stays cleared until a start or until a stop returns.
* `Step.accounts`: every thread has the interval of the sensor that was registered at its place.
* `Step.put`: what else can happen does not depend on the thread at a place.
-/
namespace HealthAgent

/-- A scheduler at work. -/
structure Crew (σ : Type) where
  /-- The threads that earlier stops have waited for. -/
  past : List (Thread σ)
  scheduler : Scheduler σ
  /-- Whether a stop has begun and not returned. -/
  stopping : Bool

inductive Happening (σ : Type) where
  | added (r : Registration σ)
  | started
  /-- A signal has cleared the flag. -/
  | signalled
  /-- A stop has cleared the flag and begun to wait. -/
  | stopping
  /-- A stop has returned. -/
  | stopped
  /-- The thread at a place took a turn. -/
  | turn (place : Nat) (event : Option ThreadEvent)

namespace Happening

variable {σ : Type}

def eventOf (place : Nat) : Happening σ → Option ThreadEvent
  | turn p event => if p = place then event else none
  | _ => none

def isTurn (place : Nat) : Happening σ → Bool
  | turn p _ => p = place
  | _ => false

/-- The sensor that was registered. -/
def registration? : Happening σ → Option (Registration σ)
  | added r => some r
  | _ => none

end Happening

variable {σ : Type}

def eventsOf (place : Nat) (hs : List (Happening σ)) : List ThreadEvent :=
  hs.filterMap (·.eventOf place)

/-- How often the thread at a place took a turn. -/
def turnsOf (place : Nat) (hs : List (Happening σ)) : Nat := hs.countP (·.isTurn place)

/-- The sensors that were registered, in order. -/
def registered (hs : List (Happening σ)) : List (Registration σ) := hs.filterMap (·.registration?)

theorem eventsOf_turn (place : Nat) (event : Option ThreadEvent) (hs : List (Happening σ)) :
    eventsOf place (.turn place event :: hs) = event.toList ++ eventsOf place hs := by
  cases event <;> simp [eventsOf, Happening.eventOf]

theorem eventsOf_other {place : Nat} {x : Happening σ} (h : x.isTurn place = false)
    (hs : List (Happening σ)) : eventsOf place (x :: hs) = eventsOf place hs := by
  cases x <;> simp_all [eventsOf, Happening.eventOf, Happening.isTurn]

theorem turnsOf_turn (place : Nat) (event : Option ThreadEvent) (hs : List (Happening σ)) :
    turnsOf place (.turn place event :: hs) = turnsOf place hs + 1 := by
  simp [turnsOf, Happening.isTurn]

theorem turnsOf_other {place : Nat} {x : Happening σ} (h : x.isTurn place = false)
    (hs : List (Happening σ)) : turnsOf place (x :: hs) = turnsOf place hs := by
  simp [turnsOf, h]

theorem registered_cons (x : Happening σ) (hs : List (Happening σ)) :
    registered (x :: hs) = x.registration?.toList ++ registered hs := by
  cases x <;> simp [registered, Happening.registration?]

theorem eventsOf_of_still {place : Nat} {hs : List (Happening σ)}
    (h : ∀ x ∈ hs, x.isTurn place = false) : eventsOf place hs = [] := by
  induction hs with
  | nil => rfl
  | cons x hs ih =>
    obtain ⟨hx, hrest⟩ := List.forall_mem_cons.1 h
    rw [eventsOf_other hx, ih hrest]

theorem turnsOf_of_still {place : Nat} {hs : List (Happening σ)}
    (h : ∀ x ∈ hs, x.isTurn place = false) : turnsOf place hs = 0 := by
  rw [turnsOf, List.countP_eq_zero]
  intro x hx
  rw [h x hx]
  exact Bool.false_ne_true

namespace Crew

def empty : Crew σ := ⟨[], .empty, false⟩

/-- All threads, in the order of their places. -/
def threads (c : Crew σ) : List (Thread σ) := c.past ++ c.scheduler.threads

def put (c : Crew σ) (place : Nat) (t : Thread σ) : Crew σ :=
  { c with scheduler :=
    { c.scheduler with threads := c.scheduler.threads.set (place - c.past.length) t } }

/-- What becomes of a crew, if what happens can happen, with the way that cycles run. -/
def step? (poll : σ → Id (CycleEnd × σ)) (c : Crew σ) : Happening σ → Option (Crew σ)
  | .added r => if c.stopping then none else some { c with scheduler := c.scheduler.add r }
  | .started => if c.stopping then none else some { c with scheduler := c.scheduler.start }
  | .signalled => some { c with scheduler := c.scheduler.clearFlag }
  | .stopping =>
    if c.stopping then none else some { c with scheduler := c.scheduler.clearFlag, stopping := true }
  | .stopped =>
    if c.stopping && c.scheduler.threads.all (·.isGone) then
      some ⟨c.threads, { c.scheduler with threads := [] }, false⟩
    else none
  | .turn place event =>
    if c.past.length ≤ place ∧ place < c.threads.length then
      let (scheduler, did) := Id.run (c.scheduler.stepAt poll (place - c.past.length))
      if did = event then some { c with scheduler } else none
    else none

/-- A step of a crew, whichever way a cycle runs in it. -/
def Step (c : Crew σ) (x : Happening σ) (d : Crew σ) : Prop := ∃ poll, c.step? poll x = some d

inductive Run : Crew σ → List (Happening σ) → Crew σ → Prop where
  | nil (c : Crew σ) : Run c [] c
  | cons {c d e : Crew σ} {x : Happening σ} {hs : List (Happening σ)} :
    Step c x d → Run d hs e → Run c (x :: hs) e

/-- The flag is cleared, and stays so whatever happens next, at least until a stop returns. -/
def Halted (c : Crew σ) (next : List (Happening σ)) : Prop :=
  c.scheduler.running = false ∧ (.started ∉ next ∨ c.stopping = true)

/-- The flag is cleared only while a stop waits for the threads, if there are any. -/
def Guarded (c : Crew σ) : Prop :=
  c.scheduler.running = false → c.stopping = true ∨ c.scheduler.threads = []

/-- Threads and sensors that wait to be started stand in the order of registration, with their
intervals, and no slice in progress is too long. -/
structure Accounts (c : Crew σ) (rs : List (Registration σ)) : Prop where
  bounded : ∀ t ∈ c.threads, t.phase.Bounded
  intervals : c.threads.map (·.interval) ++ c.scheduler.pending.map (·.interval) = rs.map (·.interval)

variable {c d e : Crew σ} {place : Nat} {t : Thread σ} {x : Happening σ} {hs : List (Happening σ)}

theorem Accounts.interval {rs : List (Registration σ)} (h : c.Accounts rs)
    (ht : c.threads[place]? = some t) : ∃ r, rs[place]? = some r ∧ t.interval = r.interval := by
  have hmap := congrArg (·[place]?) h.intervals
  have hlt := (List.getElem?_eq_some_iff.1 ht).1
  simp only [List.getElem?_append_left (show place < (c.threads.map (·.interval)).length by simpa),
    List.getElem?_map, ht] at hmap
  obtain ⟨r, hr, hinterval⟩ := Option.map_eq_some_iff.1 hmap.symm
  exact ⟨r, hr, hinterval.symm⟩

/-! ## What a step does -/

theorem threads_put (h : c.past.length ≤ place) (t : Thread σ) :
    (c.put place t).threads = c.threads.set place t := by
  simp only [threads, put]
  rw [List.set_append_right _ _ h]

theorem put_self (h : c.past.length ≤ place) (ht : c.threads[place]? = some t) : c.put place t = c := by
  have hold : c.scheduler.threads[place - c.past.length]? = some t := by
    rw [← ht, threads, List.getElem?_append_right h]
  obtain ⟨hlt, rfl⟩ := List.getElem?_eq_some_iff.1 hold
  simp [put]

theorem put_put (t t' : Thread σ) : (c.put place t).put place t' = c.put place t' := by
  simp [put]

namespace Step

theorem exists_poll_iff {p : Prop} : (∃ _ : σ → Id (CycleEnd × σ), p) ↔ p :=
  ⟨fun ⟨_, h⟩ => h, fun h => ⟨fun sensor => (.proceed, sensor), h⟩⟩

theorem added_iff {r : Registration σ} :
    Step c (.added r) d ↔ c.stopping = false ∧ d = { c with scheduler := c.scheduler.add r } := by
  cases hs : c.stopping <;> simp [Step, step?, hs, eq_comm, exists_poll_iff]

theorem started_iff :
    Step c .started d ↔ c.stopping = false ∧ d = { c with scheduler := c.scheduler.start } := by
  cases hs : c.stopping <;> simp [Step, step?, hs, eq_comm, exists_poll_iff]

theorem signalled_iff :
    Step c .signalled d ↔ d = { c with scheduler := c.scheduler.clearFlag } := by
  simp [Step, step?, eq_comm, exists_poll_iff]

theorem stopping_iff :
    Step c .stopping d ↔ c.stopping = false ∧
      d = { c with scheduler := c.scheduler.clearFlag, stopping := true } := by
  cases hs : c.stopping <;> simp [Step, step?, hs, eq_comm, exists_poll_iff]

theorem stopped_iff :
    Step c .stopped d ↔ (c.stopping = true ∧ ∀ t ∈ c.scheduler.threads, t.phase = .gone) ∧
      d = ⟨c.threads, { c.scheduler with threads := [] }, false⟩ := by
  simp only [Step, step?, Bool.and_eq_true, List.all_eq_true, Thread.isGone, decide_eq_true_eq,
    exists_poll_iff]
  split
  · rename_i h
    rw [Option.some.injEq, and_iff_right h]
    exact eq_comm
  · rename_i h
    simp [h]

theorem stepAt_eq {s : Scheduler σ} {i : Nat} (ht : s.threads[i]? = some t)
    (poll : σ → Id (CycleEnd × σ)) :
    s.stepAt poll i =
      ({ s with threads := s.threads.set i (t.step poll s.running).1 }, (t.step poll s.running).2) := by
  simp only [Scheduler.stepAt, ht]
  rfl

theorem step?_turn (hplace : c.past.length ≤ place) (ht : c.threads[place]? = some t)
    (poll : σ → Id (CycleEnd × σ)) (event : Option ThreadEvent) :
    c.step? poll (.turn place event) =
      if (t.step poll c.scheduler.running).2 = event then
        some (c.put place (t.step poll c.scheduler.running).1)
      else none := by
  have hlt : place < c.threads.length := (List.getElem?_eq_some_iff.1 ht).1
  have hown : c.scheduler.threads[place - c.past.length]? = some t := by
    rw [← ht, threads, List.getElem?_append_right hplace]
  rw [step?, if_pos ⟨hplace, hlt⟩, stepAt_eq hown]
  rfl

/-- A turn is one of a thread that no stop has waited for, and changes nothing but the thread. -/
theorem turn_iff {event : Option ThreadEvent} :
    Step c (.turn place event) d ↔ c.past.length ≤ place ∧ ∃ t t', c.threads[place]? = some t ∧
      t.Turn c.scheduler.running event t' ∧ d = c.put place t' := by
  constructor
  · rintro ⟨poll, hstep⟩
    by_cases hplace : c.past.length ≤ place ∧ place < c.threads.length
    · have ht : c.threads[place]? = some c.threads[place] := List.getElem?_eq_getElem hplace.2
      rw [step?_turn hplace.1 ht] at hstep
      split at hstep
      · rename_i hevent
        cases hstep
        exact ⟨hplace.1, _, _, ht, ⟨poll, Prod.ext rfl hevent⟩, rfl⟩
      · cases hstep
    · rw [step?, if_neg hplace] at hstep
      cases hstep
  · rintro ⟨hplace, t, t', ht, ⟨poll, hturn⟩, rfl⟩
    exact ⟨poll, by rw [step?_turn hplace ht, hturn, if_pos rfl]⟩

theorem thread (h : Step c x d) (ht : c.threads[place]? = some t) :
    (∃ event t', x = .turn place event ∧ t.Turn c.scheduler.running event t' ∧
      d.threads[place]? = some t') ∨
    (x.isTurn place = false ∧ d.threads[place]? = some t) := by
  have hlt : place < c.threads.length := (List.getElem?_eq_some_iff.1 ht).1
  cases x with
  | added r =>
    obtain ⟨-, rfl⟩ := added_iff.1 h
    exact .inr ⟨rfl, ht⟩
  | started =>
    obtain ⟨-, rfl⟩ := started_iff.1 h
    refine .inr ⟨rfl, ?_⟩
    rw [← ht]
    simp only [threads, Scheduler.start, ← List.append_assoc]
    exact List.getElem?_append_left hlt
  | signalled =>
    rw [signalled_iff.1 h]
    exact .inr ⟨rfl, ht⟩
  | stopping =>
    obtain ⟨-, rfl⟩ := stopping_iff.1 h
    exact .inr ⟨rfl, ht⟩
  | stopped =>
    obtain ⟨-, rfl⟩ := stopped_iff.1 h
    refine .inr ⟨rfl, ?_⟩
    simpa [threads] using ht
  | turn p event =>
    obtain ⟨hplace, t₀, t', ht₀, hturn, rfl⟩ := turn_iff.1 h
    rw [threads_put hplace]
    by_cases hp : p = place
    · subst hp
      rw [ht] at ht₀
      cases ht₀
      exact .inl ⟨event, t', rfl, hturn, List.getElem?_set_self hlt⟩
    · exact .inr ⟨by simp [Happening.isTurn, hp], by rw [List.getElem?_set_ne hp, ht]⟩

theorem stays (h : Step c x d) (hlt : place < c.threads.length) : place < d.threads.length := by
  rcases h.thread (List.getElem?_eq_getElem hlt) with ⟨event, t', -, -, ht⟩ | ⟨-, ht⟩
  · exact (List.getElem?_eq_some_iff.1 ht).1
  · exact (List.getElem?_eq_some_iff.1 ht).1

theorem polled {result : CycleEnd} (h : Step c (.turn place (some (.polled result))) d) :
    ∃ t, d.threads[place]? = some t ∧ t.phase = Thread.phaseAfter t.interval result := by
  obtain ⟨hplace, t, t', ht, hturn, rfl⟩ := turn_iff.1 h
  refine ⟨t', ?_, ?_⟩
  · rw [threads_put hplace, List.getElem?_set_self (List.getElem?_eq_some_iff.1 ht).1]
  · rcases hturn.cases with ⟨r, sensor, -, hevent, rfl⟩ | ⟨slice, left, -, hevent, -⟩ | ⟨-, hevent, -⟩
    · cases hevent
      rfl
    · cases hevent
    · cases hevent

/-- A cleared flag stays cleared until a start or until a stop returns. -/
theorem halted (h : Step c x d) (hc : c.Halted (x :: hs)) : x = .stopped ∨ d.Halted hs := by
  obtain ⟨hflag, hstart⟩ := hc
  have hstart' : .started ∉ hs ∨ c.stopping = true :=
    hstart.imp_left fun hnot hmem => hnot (List.mem_cons_of_mem _ hmem)
  cases x with
  | added r =>
    obtain ⟨-, rfl⟩ := added_iff.1 h
    exact .inr ⟨hflag, hstart'⟩
  | started =>
    obtain ⟨hidle, -⟩ := started_iff.1 h
    rcases hstart with hnot | hstopping
    · exact absurd List.mem_cons_self hnot
    · rw [hidle] at hstopping
      cases hstopping
  | signalled =>
    rw [signalled_iff.1 h]
    exact .inr ⟨rfl, hstart'⟩
  | stopping =>
    obtain ⟨-, rfl⟩ := stopping_iff.1 h
    exact .inr ⟨rfl, .inr rfl⟩
  | stopped => exact .inl rfl
  | turn p event =>
    obtain ⟨-, t, t', -, -, rfl⟩ := turn_iff.1 h
    exact .inr ⟨hflag, hstart'⟩

/-- Without signals, the flag is cleared only while a stop waits for the threads. -/
theorem guarded (h : Step c x d) (hx : x ≠ .signalled) (hc : c.Guarded) : d.Guarded := by
  cases x with
  | added r =>
    obtain ⟨-, rfl⟩ := added_iff.1 h
    exact hc
  | started =>
    obtain ⟨-, rfl⟩ := started_iff.1 h
    intro hflag
    cases hflag
  | signalled => exact absurd rfl hx
  | stopping =>
    obtain ⟨-, rfl⟩ := stopping_iff.1 h
    exact fun _ => .inl rfl
  | stopped =>
    obtain ⟨-, rfl⟩ := stopped_iff.1 h
    exact fun _ => .inr rfl
  | turn p event =>
    obtain ⟨-, t, t', -, -, rfl⟩ := turn_iff.1 h
    intro hflag
    refine (hc hflag).imp_right fun hnone => ?_
    simp [put, hnone]

theorem accounts {rs : List (Registration σ)} (h : Step c x d) (hc : c.Accounts rs) :
    d.Accounts (rs ++ x.registration?.toList) := by
  obtain ⟨hbounded, hintervals⟩ := hc
  cases x with
  | added r =>
    obtain ⟨-, rfl⟩ := added_iff.1 h
    refine ⟨hbounded, ?_⟩
    simp [← hintervals, Scheduler.add, threads, Happening.registration?]
  | started =>
    obtain ⟨-, rfl⟩ := started_iff.1 h
    constructor
    · intro t ht
      simp only [threads, Scheduler.start, ← List.append_assoc] at ht
      rcases List.mem_append.1 ht with hold | hnew
      · exact hbounded t hold
      · obtain ⟨r, -, rfl⟩ := List.mem_map.1 hnew
        intro slice left hphase
        cases hphase
    · simp [← hintervals, Scheduler.start, threads, Scheduler.threadOf, Happening.registration?,
        Function.comp_def]
  | signalled =>
    rw [signalled_iff.1 h]
    exact ⟨hbounded, hintervals.trans (by simp [Happening.registration?])⟩
  | stopping =>
    obtain ⟨-, rfl⟩ := stopping_iff.1 h
    exact ⟨hbounded, hintervals.trans (by simp [Happening.registration?])⟩
  | stopped =>
    obtain ⟨-, rfl⟩ := stopped_iff.1 h
    refine ⟨by simpa [threads] using hbounded, Eq.trans ?_ (hintervals.trans ?_)⟩
    · simp [threads]
    · simp [Happening.registration?]
  | turn p event =>
    obtain ⟨hp, t, t', ht, hturn, rfl⟩ := turn_iff.1 h
    have hmem : t ∈ c.threads := List.mem_of_getElem? ht
    constructor
    · intro u hu
      rw [threads_put hp] at hu
      rcases List.mem_or_eq_of_mem_set hu with hold | rfl
      · exact hbounded u hold
      · exact (hturn.bounded (hbounded t hmem)).1
    · obtain ⟨hlt, rfl⟩ := List.getElem?_eq_some_iff.1 ht
      have hsame : (c.threads.set p t').map (·.interval) = c.threads.map (·.interval) := by
        rw [List.map_set, hturn.interval, ← List.map_set, List.set_getElem_self]
      rw [threads_put hp, hsame]
      simpa [put, Happening.registration?] using hintervals

/-- A thread that a stop has waited for takes no turn. -/
theorem past (h : Step c x d) (hpast : place < c.past.length) :
    x.isTurn place = false ∧ d.threads[place]? = c.threads[place]? ∧ place < d.past.length := by
  have hlt : place < c.threads.length := by
    simp only [threads, List.length_append]
    omega
  have hnot : x.isTurn place = false := by
    cases x with
    | turn p event =>
      obtain ⟨hp, -⟩ := turn_iff.1 h
      simp only [Happening.isTurn, decide_eq_false_iff_not]
      omega
    | _ => rfl
  have ht : c.threads[place]? = some c.threads[place] := List.getElem?_eq_getElem hlt
  refine ⟨hnot, ?_, ?_⟩
  · rcases h.thread ht with ⟨event, t', rfl, -, -⟩ | ⟨-, ht'⟩
    · simp [Happening.isTurn] at hnot
    · rw [ht', ht]
  · cases x with
    | added r => obtain ⟨-, rfl⟩ := added_iff.1 h; exact hpast
    | started => obtain ⟨-, rfl⟩ := started_iff.1 h; exact hpast
    | signalled => rw [signalled_iff.1 h]; exact hpast
    | stopping => obtain ⟨-, rfl⟩ := stopping_iff.1 h; exact hpast
    | stopped => obtain ⟨-, rfl⟩ := stopped_iff.1 h; exact hlt
    | turn p event => obtain ⟨-, t, t', -, -, rfl⟩ := turn_iff.1 h; exact hpast

theorem unstarted (h : Step c x d) (hx : x ≠ .started) : d.threads.length = c.threads.length := by
  cases x with
  | added r => obtain ⟨-, rfl⟩ := added_iff.1 h; rfl
  | started => exact absurd rfl hx
  | signalled => rw [signalled_iff.1 h]; rfl
  | stopping => obtain ⟨-, rfl⟩ := stopping_iff.1 h; rfl
  | stopped =>
    obtain ⟨-, rfl⟩ := stopped_iff.1 h
    simp [threads]
  | turn p event =>
    obtain ⟨hp, t, t', -, -, rfl⟩ := turn_iff.1 h
    rw [threads_put hp, List.length_set]

theorem put (h : Step c x d) (hplace : c.past.length ≤ place) (hlt : place < c.threads.length)
    (hx : x.isTurn place = false) (hstop : x ≠ .stopped) (t : Thread σ) :
    Step (c.put place t) x (d.put place t) ∧ d.past = c.past := by
  have hown : place - c.past.length < c.scheduler.threads.length := by
    simp only [threads, List.length_append] at hlt
    omega
  cases x with
  | added r =>
    obtain ⟨hidle, rfl⟩ := added_iff.1 h
    exact ⟨added_iff.2 ⟨hidle, rfl⟩, rfl⟩
  | started =>
    obtain ⟨hidle, rfl⟩ := started_iff.1 h
    refine ⟨started_iff.2 ⟨hidle, ?_⟩, rfl⟩
    simp [Crew.put, Scheduler.start, List.set_append_left _ _ hown]
  | signalled =>
    rw [signalled_iff.1 h]
    exact ⟨signalled_iff.2 rfl, rfl⟩
  | stopping =>
    obtain ⟨hidle, rfl⟩ := stopping_iff.1 h
    exact ⟨stopping_iff.2 ⟨hidle, rfl⟩, rfl⟩
  | stopped => exact absurd rfl hstop
  | turn p event =>
    obtain ⟨hp, u, u', hu, hturn, rfl⟩ := turn_iff.1 h
    have hne : place ≠ p := by
      rintro rfl
      simp [Happening.isTurn] at hx
    refine ⟨turn_iff.2 ⟨hp, u, u', ?_, hturn, ?_⟩, rfl⟩
    · rw [threads_put hplace, List.getElem?_set_ne hne, hu]
    · have hne' : p - c.past.length ≠ place - c.past.length := by omega
      simp [Crew.put, List.set_comm _ _ hne']

end Step

end Crew
end HealthAgent
