import HealthAgent.Program
/-!
# Runs of programs

A run takes a program through states: each request is answered in the state it meets, as a relation
`T` allows, and leaves the next state. A run may stop before any request, as a crash of the process
would stop it; the state it has reached then stays.

`Ensures T I p s Q` says what every run of `p` from `s` keeps: `I` holds in the state where it stops,
crash or not, and `Q` if it ends with a value.

Results:
* `runs_bind_iff`: a run of a sequence stops in its first part or goes through it into the second.
* `Runs.of_done`, `Runs.of_call`, `Runs.of_bind`: the parts of a completed run.
* `Ensures.bind`: a sequence keeps what its parts keep.
* `Runs.keeps`: what every step keeps, every run keeps.
* `runs_runFor`: a handler whose answers are allowed makes runs, also cut off after `n` requests.
* `Ensures.run`, `Ensures.runFor`: what every run keeps, the run of a handler keeps, to its end or
  cut off after `n` requests.
-/
namespace HealthAgent.Program

variable {Req Req' Req'' : Type} {Ans : Req → Type} {Ans' : Req' → Type} {Ans'' : Req'' → Type}
variable {α β σ : Type} {T : σ → (r : Req) → Ans r → σ → Prop} {I : σ → Prop}

/-- `Runs T p s o s'`: a run of `p` from `s` stops in `s'`, with its value or cut short. -/
inductive Runs (T : σ → (r : Req) → Ans r → σ → Prop) :
    Program Req Ans α → σ → Option α → σ → Prop
  | done (a : α) (s : σ) : Runs T (.done a) s (some a) s
  | cut (r : Req) (k : Ans r → Program Req Ans α) (s : σ) : Runs T (.call r k) s none s
  | call {r : Req} {k : Ans r → Program Req Ans α} {s : σ} {a : Ans r} {s' : σ} {o : Option α}
      {s'' : σ} (step : T s r a s') (rest : Runs T (k a) s' o s'') : Runs T (.call r k) s o s''

theorem runs_done_iff (a : α) (s : σ) (o : Option α) (s' : σ) :
    Runs T (.done a) s o s' ↔ o = some a ∧ s' = s := by
  constructor
  · intro h; cases h; exact ⟨rfl, rfl⟩
  · rintro ⟨rfl, rfl⟩; exact .done a s'

theorem runs_call_iff (r : Req) (k : Ans r → Program Req Ans α) (s : σ) (o : Option α) (s' : σ) :
    Runs T (.call r k) s o s' ↔
      (o = none ∧ s' = s) ∨ ∃ a s₁, T s r a s₁ ∧ Runs T (k a) s₁ o s' := by
  constructor
  · intro h
    cases h with
    | cut => exact .inl ⟨rfl, rfl⟩
    | call step rest => exact .inr ⟨_, _, step, rest⟩
  · rintro (⟨rfl, rfl⟩ | ⟨a, s₁, step, rest⟩)
    · exact .cut r k s'
    · exact .call step rest

theorem runs_bind_iff (p : Program Req Ans α) (f : α → Program Req Ans β) (s : σ) (o : Option β)
    (s' : σ) : Runs T (p.bind f) s o s' ↔
      (o = none ∧ Runs T p s none s') ∨ ∃ a s₁, Runs T p s (some a) s₁ ∧ Runs T (f a) s₁ o s' := by
  induction p generalizing s with
  | done a =>
    simp only [bind, runs_done_iff]
    constructor
    · intro h; exact .inr ⟨a, s, ⟨rfl, rfl⟩, h⟩
    · rintro (⟨-, h, -⟩ | ⟨b, s₁, ⟨⟨⟩, rfl⟩, h⟩)
      · cases h
      · exact h
  | call r k ih =>
    simp only [bind, runs_call_iff, ih]
    constructor
    · rintro (⟨rfl, rfl⟩ | ⟨a, s₁, step, ⟨rfl, rest⟩ | ⟨b, s₂, first, rest⟩⟩)
      · exact .inl ⟨rfl, .inl ⟨trivial, rfl⟩⟩
      · exact .inl ⟨rfl, .inr ⟨a, s₁, step, rest⟩⟩
      · exact .inr ⟨b, s₂, .inr ⟨a, s₁, step, first⟩, rest⟩
    · rintro (⟨rfl, ⟨-, rfl⟩ | ⟨a, s₁, step, rest⟩⟩ | ⟨b, s₂, ⟨h, -⟩ | ⟨a, s₁, step, first⟩, rest⟩)
      · exact .inl ⟨rfl, rfl⟩
      · exact .inr ⟨a, s₁, step, .inl ⟨rfl, rest⟩⟩
      · cases h
      · exact .inr ⟨a, s₁, step, .inr ⟨b, s₂, first, rest⟩⟩

theorem Runs.of_done {a b : α} {s s' : σ} (h : Runs T (.done a : Program Req Ans α) s (some b) s') :
    a = b ∧ s' = s := by
  obtain ⟨hb, hs⟩ := (runs_done_iff _ _ _ _).1 h
  exact ⟨(Option.some.inj hb).symm, hs⟩

/-- A completed run goes on behind its first request. -/
theorem Runs.of_call {r : Req} {k : Ans r → Program Req Ans α} {s : σ} {b : α} {s' : σ}
    (h : Runs T (.call r k) s (some b) s') : ∃ a s₁, T s r a s₁ ∧ Runs T (k a) s₁ (some b) s' := by
  cases h with
  | call step rest => exact ⟨_, _, step, rest⟩

/-- A completed run of a sequence has gone through its first part. -/
theorem Runs.of_bind {p : Program Req Ans α} {f : α → Program Req Ans β} {s : σ} {b : β} {s' : σ}
    (h : Runs T (p.bind f) s (some b) s') :
    ∃ a s₁, Runs T p s (some a) s₁ ∧ Runs T (f a) s₁ (some b) s' := by
  rcases (runs_bind_iff _ _ _ _ _).1 h with ⟨hnone, -⟩ | hthrough
  · cases hnone
  · exact hthrough

/-- What every step keeps, every run keeps. -/
theorem Runs.keeps (hI : ∀ s r a s', I s → T s r a s' → I s') {p : Program Req Ans α} {s : σ}
    {o : Option α} {s' : σ} (h : Runs T p s o s') (hs : I s) : I s' := by
  induction h with
  | done => exact hs
  | cut => exact hs
  | call step _ ih => exact ih (hI _ _ _ _ hs step)

/-- A handler whose answers are allowed, as far as its states can be seen, makes runs, also cut off
after `n` requests. -/
theorem runs_runFor {τ : Type} (answer : (r : Req) → τ → Ans r × τ) (view : τ → σ)
    (hT : ∀ r t, T (view t) r (answer r t).1 (view (answer r t).2)) (n : Nat)
    (p : Program Req Ans α) (t : τ) :
    Runs T p (view t) (p.runFor answer n t).1 (view (p.runFor answer n t).2) := by
  induction p generalizing n t with
  | done a => cases n <;> exact .done a (view t)
  | call r k ih =>
    cases n with
    | zero => exact .cut r k (view t)
    | succ n => exact .call (hT r t) (ih _ n _)

/-- A handler whose answers are allowed, as far as its states can be seen, makes a run to the end. -/
theorem runs_run {τ : Type} (handle : (r : Req) → StateM τ (Ans r)) (view : τ → σ)
    (hT : ∀ r t, T (view t) r (handle r t).1 (view (handle r t).2)) (p : Program Req Ans α) (t : τ) :
    Runs T p (view t) (some (p.run handle t).1) (view (p.run handle t).2) := by
  induction p generalizing t with
  | done a => exact .done a (view t)
  | call r k ih => exact .call (hT r t) (ih _ _)

/-- With a handler over states, the second part of a sequence starts where the first one ends. -/
theorem run_bind_state (handle : (r : Req) → StateM σ (Ans r)) (p : Program Req Ans α)
    (f : α → Program Req Ans β) (s : σ) :
    (p.bind f).run handle s = (f (p.run handle s).1).run handle (p.run handle s).2 := by
  rw [run_bind]
  rfl

theorem run_ask_state (handle : (r : Req) → StateM σ (Ans r)) (r : Req) (s : σ) :
    (ask r : Program Req Ans (Ans r)).run handle s = handle r s := rfl

theorem run_pure_state (handle : (r : Req) → StateM σ (Ans r)) (a : α) (s : σ) :
    (pure a : Program Req Ans α).run handle s = (a, s) := rfl

/-! ## What every run keeps -/

/-- Every run of `p` from `s` stops in a state of `I`, and of `Q` if it ends with a value. -/
def Ensures (T : σ → (r : Req) → Ans r → σ → Prop) (I : σ → Prop) (p : Program Req Ans α) (s : σ)
    (Q : α → σ → Prop) : Prop :=
  ∀ o s', Runs T p s o s' → I s' ∧ ∀ a, o = some a → Q a s'

namespace Ensures

variable {p : Program Req Ans α} {s : σ} {P Q : α → σ → Prop} {R : β → σ → Prop}

theorem done {a : α} (hI : I s) (hQ : Q a s) : Ensures T I (.done a) s Q := by
  intro o s' h
  obtain ⟨rfl, rfl⟩ := (runs_done_iff a s o s').1 h
  refine ⟨hI, ?_⟩
  rintro b ⟨⟩
  exact hQ

theorem call {r : Req} {k : Ans r → Program Req Ans α} (hI : I s)
    (hk : ∀ a s', T s r a s' → Ensures T I (k a) s' Q) : Ensures T I (.call r k) s Q := by
  intro o s' h
  rcases (runs_call_iff r k s o s').1 h with ⟨rfl, rfl⟩ | ⟨a, s₁, step, rest⟩
  · exact ⟨hI, by simp⟩
  · exact hk a s₁ step o s' rest

/-- A sequence keeps what its parts keep. -/
theorem bind {f : α → Program Req Ans β} (hp : Ensures T I p s P)
    (hf : ∀ a s', P a s' → Ensures T I (f a) s' R) : Ensures T I (p.bind f) s R := by
  intro o s' h
  rcases (runs_bind_iff p f s o s').1 h with ⟨rfl, first⟩ | ⟨a, s₁, first, rest⟩
  · exact ⟨(hp none s' first).1, by simp⟩
  · exact hf a s₁ ((hp (some a) s₁ first).2 a rfl) o s' rest

theorem mono {J : σ → Prop} (hp : Ensures T I p s P) (hI : ∀ s', I s' → J s')
    (hQ : ∀ a s', I s' → P a s' → Q a s') : Ensures T J p s Q := by
  intro o s' h
  obtain ⟨hi, hq⟩ := hp o s' h
  exact ⟨hI s' hi, fun a ha => hQ a s' hi (hq a ha)⟩

theorem run {τ : Type} {handle : (r : Req) → StateM τ (Ans r)} {view : τ → σ}
    (hT : ∀ r t, T (view t) r (handle r t).1 (view (handle r t).2)) {t : τ}
    (hp : Ensures T I p (view t) Q) : Q (p.run handle t).1 (view (p.run handle t).2) :=
  (hp _ _ (runs_run handle view hT p t)).2 _ rfl

theorem runFor {τ : Type} {answer : (r : Req) → τ → Ans r × τ} (view : τ → σ)
    (hT : ∀ r t, T (view t) r (answer r t).1 (view (answer r t).2)) {t : τ}
    (hp : Ensures T I p (view t) Q) (n : Nat) : I (view (p.runFor answer n t).2) :=
  (hp _ _ (runs_runFor answer view hT n p t)).1

end Ensures

/-! ## Translated programs -/

theorem translate_bind (g : (r : Req) → Program Req' Ans' (Ans r)) (p : Program Req Ans α)
    (f : α → Program Req Ans β) :
    (p.bind f).translate g = (p.translate g).bind fun a => (f a).translate g := by
  induction p with
  | done a => rfl
  | call r k ih => simp [bind, translate, bind_assoc, ih]

theorem translate_translate (g : (r : Req) → Program Req' Ans' (Ans r))
    (g' : (r : Req') → Program Req'' Ans'' (Ans' r)) (p : Program Req Ans α) :
    (p.translate g).translate g' = p.translate fun r => (g r).translate g' := by
  induction p with
  | done a => rfl
  | call r k ih => simp [translate, translate_bind, ih]

theorem translate_ask (p : Program Req Ans α) : p.translate ask = p := by
  induction p with
  | done a => rfl
  | call r k ih => simp [translate, ask, bind, ih]

end HealthAgent.Program
