import HealthAgent.Proofs.Program.Runs
/-!
# Two runs side by side

What a run has in common with the run that repeats it is shown along both programs at once.
`Twins T p s q t R` says that whenever `p` from `s` and `q` from `t` both come to an end, their
values and last states are related by `R`. The programs and the states may differ; only runs to the
end count.

`Only P p` says that all requests that `p` can make are of a kind, whatever the answers are.

Results:
* `Twins.bind`, `Twins.call`: sequences and requests, side by side.
* `Twins.of_left`, `Twins.of_right`, `Twins.of_ensures`: what is known of one run or of either.
* `Only.ensures`: what the steps of a kind of request keep, a program limited to it keeps.
-/
namespace HealthAgent.Program

variable {Req Req' : Type} {Ans : Req → Type} {Ans' : Req' → Type} {α β γ δ σ : Type}
variable {T : σ → (r : Req) → Ans r → σ → Prop}

/-- Whenever `p` from `s` and `q` from `t` both come to an end, the ends are related. -/
def Twins (T : σ → (r : Req) → Ans r → σ → Prop) (p : Program Req Ans α) (s : σ)
    (q : Program Req Ans β) (t : σ) (R : α → σ → β → σ → Prop) : Prop :=
  ∀ a s' b t', Runs T p s (some a) s' → Runs T q t (some b) t' → R a s' b t'

namespace Twins

variable {p : Program Req Ans α} {q : Program Req Ans β} {s t : σ}

theorem done {a : α} {b : β} {R : α → σ → β → σ → Prop} (h : R a s b t) :
    Twins T (.done a) s (.done b) t R := by
  intro a' s' b' t' hp hq
  obtain ⟨ha, rfl⟩ := (runs_done_iff a s _ s').1 hp
  obtain ⟨hb, rfl⟩ := (runs_done_iff b t _ t').1 hq
  cases ha
  cases hb
  exact h

theorem call {r r' : Req} {k : Ans r → Program Req Ans α} {k' : Ans r' → Program Req Ans β}
    {R : α → σ → β → σ → Prop}
    (h : ∀ a s₁ b t₁, T s r a s₁ → T t r' b t₁ → Twins T (k a) s₁ (k' b) t₁ R) :
    Twins T (.call r k) s (.call r' k') t R := by
  intro a s' b t' hp hq
  rcases (runs_call_iff r k s _ s').1 hp with ⟨hnone, -⟩ | ⟨x, s₁, hstep, hp⟩
  · cases hnone
  rcases (runs_call_iff r' k' t _ t').1 hq with ⟨hnone, -⟩ | ⟨y, t₁, hstep', hq⟩
  · cases hnone
  exact h x s₁ y t₁ hstep hstep' a s' b t' hp hq

theorem bind {f : α → Program Req Ans γ} {g : β → Program Req Ans δ}
    {P : α → σ → β → σ → Prop} {R : γ → σ → δ → σ → Prop} (h : Twins T p s q t P)
    (hfg : ∀ a s' b t', P a s' b t' → Twins T (f a) s' (g b) t' R) :
    Twins T (p.bind f) s (q.bind g) t R := by
  intro c s' d t' hp hq
  rcases (runs_bind_iff p f s _ s').1 hp with ⟨hnone, -⟩ | ⟨a, s₁, hp, hf⟩
  · cases hnone
  rcases (runs_bind_iff q g t _ t').1 hq with ⟨hnone, -⟩ | ⟨b, t₁, hq, hg⟩
  · cases hnone
  exact hfg a s₁ b t₁ (h a s₁ b t₁ hp hq) c s' d t' hf hg

theorem mono {P R : α → σ → β → σ → Prop} (h : Twins T p s q t P)
    (hPR : ∀ a s' b t', P a s' b t' → R a s' b t') : Twins T p s q t R :=
  fun a s' b t' hp hq => hPR a s' b t' (h a s' b t' hp hq)

theorem and {P R : α → σ → β → σ → Prop} (h : Twins T p s q t P) (h' : Twins T p s q t R) :
    Twins T p s q t fun a s' b t' => P a s' b t' ∧ R a s' b t' :=
  fun a s' b t' hp hq => ⟨h a s' b t' hp hq, h' a s' b t' hp hq⟩

theorem of_left {I : σ → Prop} {P : α → σ → Prop} (hp : Ensures T I p s P) :
    Twins T p s q t fun a s' _ _ => P a s' :=
  fun a s' _ _ hrun _ => (hp _ s' hrun).2 a rfl

theorem of_right {I : σ → Prop} {Q : β → σ → Prop} (hq : Ensures T I q t Q) :
    Twins T p s q t fun _ _ b t' => Q b t' :=
  fun _ _ b t' _ hrun => (hq _ t' hrun).2 b rfl

theorem of_ensures {I J : σ → Prop} {P : α → σ → Prop} {Q : β → σ → Prop}
    (hp : Ensures T I p s P) (hq : Ensures T J q t Q) :
    Twins T p s q t fun a s' b t' => P a s' ∧ Q b t' :=
  fun a s' b t' hrun hrun' => ⟨(hp _ s' hrun).2 a rfl, (hq _ t' hrun').2 b rfl⟩

end Twins

/-! ## Programs limited to a kind of request -/

/-- All requests of a program are of a kind. -/
def Only (P : Req → Prop) : Program Req Ans α → Prop
  | .done _ => True
  | .call r k => P r ∧ ∀ a, Only P (k a)

theorem Only.imp {P P' : Req → Prop} {p : Program Req Ans α} (h : Only P p)
    (hP : ∀ r, P r → P' r) : Only P' p := by
  induction p with
  | done a => trivial
  | call r k ih => exact ⟨hP r h.1, fun a => ih a (h.2 a)⟩

theorem Only.bind {P : Req → Prop} {p : Program Req Ans α} {f : α → Program Req Ans β}
    (hp : Only P p) (hf : ∀ a, Only P (f a)) : Only P (p.bind f) := by
  induction p with
  | done a => exact hf a
  | call r k ih => exact ⟨hp.1, fun a => ih a (hp.2 a)⟩

theorem Only.translate {P : Req → Prop} {P' : Req' → Prop}
    {g : (r : Req) → Program Req' Ans' (Ans r)} (hg : ∀ r, P r → Only P' (g r))
    {p : Program Req Ans α} (hp : Only P p) : Only P' (p.translate g) := by
  induction p with
  | done a => trivial
  | call r k ih => exact (hg r hp.1).bind fun a => ih a (hp.2 a)

/-- What the steps of a kind of request keep, a program limited to it keeps. -/
theorem Only.ensures {P : Req → Prop} {I : σ → Prop}
    (hI : ∀ s r a s', P r → I s → T s r a s' → I s') {p : Program Req Ans α} (hp : Only P p) {s : σ}
    (hs : I s) : Ensures T I p s fun _ => I := by
  intro o s' hrun
  have hend : I s' := by
    induction hrun with
    | done => exact hs
    | cut => exact hs
    | call step _ ih => exact ih (hp.2 _) (hI _ _ _ _ hp.1 hs step)
  exact ⟨hend, fun _ _ => hend⟩

theorem Ensures.and {I J : σ → Prop} {Q R : α → σ → Prop} {p : Program Req Ans α} {s : σ}
    (h : Ensures T I p s Q) (h' : Ensures T J p s R) :
    Ensures T I p s fun a s' => Q a s' ∧ R a s' :=
  fun o s' hrun => ⟨(h o s' hrun).1, fun a ha => ⟨(h o s' hrun).2 a ha, (h' o s' hrun).2 a ha⟩⟩

end HealthAgent.Program
