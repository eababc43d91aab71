import HealthAgent.Proofs.Program.Twins
/-!
# What a run exchanges

A handler takes a program to its end. On the way it gives an answer to each request, and `exchanges`
lists the requests with their answers, in order. Nothing is assumed of the handler: whatever answers
a program can get, some handler gives them.

`StopsAt bad fatal p` is a property of the program alone, read off its tree: a bad exchange is the
last one and makes the value fatal, and without one the value is not fatal.

Results:
* `exchanges_bind`: the exchanges of a sequence are those of its parts.
* `StopsAt.bind`: a sequence stops at a bad exchange if its parts do.
* `StopsAt.of_only`: a program whose requests have no bad answers.
* `StopsAt.fatal_iff`, `StopsAt.last`: when the value of a run is fatal, and that nothing follows.
* `Only.exchanges`: a program limited to requests of a kind exchanges no others.
* `Only.run_congr`: handlers that answer the requests of a kind alike take a program limited to it
  to the same end.
-/
namespace HealthAgent

structure Exchange (Req : Type) (Ans : Req → Type) where
  request : Req
  answer : Ans request

namespace Program

variable {Req : Type} {Ans : Req → Type} {α β σ : Type}

def exchanges (handle : (r : Req) → StateM σ (Ans r)) : Program Req Ans α → σ →
    List (Exchange Req Ans)
  | done _, _ => []
  | call r k, t => ⟨r, (handle r t).1⟩ :: exchanges handle (k (handle r t).1) (handle r t).2

theorem exchanges_bind (handle : (r : Req) → StateM σ (Ans r)) (p : Program Req Ans α)
    (f : α → Program Req Ans β) (t : σ) : (p.bind f).exchanges handle t =
      p.exchanges handle t ++ (f (p.run handle t).1).exchanges handle (p.run handle t).2 := by
  induction p generalizing t with
  | done a => rfl
  | call r k ih => exact congrArg (⟨r, (handle r t).1⟩ :: ·) (ih _ _)

/-- A bad exchange is the last one and makes the value fatal; without one the value is not fatal. -/
def StopsAt (bad : Exchange Req Ans → Prop) (fatal : α → Prop) : Program Req Ans α → Prop
  | done a => ¬fatal a
  | call r k => ∀ a, (bad ⟨r, a⟩ → ∃ b, k a = done b ∧ fatal b) ∧
      (¬bad ⟨r, a⟩ → StopsAt bad fatal (k a))

namespace StopsAt

variable {bad : Exchange Req Ans → Prop} {fatal : α → Prop} {fatal' : β → Prop}
  {p : Program Req Ans α}

/-- A fatal value of the first part has to end the sequence with a fatal value. -/
theorem bind {f : α → Program Req Ans β} (hp : StopsAt bad fatal p)
    (hfatal : ∀ a, fatal a → ∃ b, f a = done b ∧ fatal' b)
    (hf : ∀ a, ¬fatal a → StopsAt bad fatal' (f a)) : StopsAt bad fatal' (p.bind f) := by
  induction p with
  | done a => exact hf a hp
  | call r k ih =>
    intro a
    obtain ⟨hbad, hgood⟩ := hp a
    refine ⟨fun h => ?_, fun h => ih a (hgood h)⟩
    obtain ⟨b, hb, hfatal_b⟩ := hbad h
    obtain ⟨c, hc, hfatal_c⟩ := hfatal b hfatal_b
    exact ⟨c, (congrArg (Program.bind · f) hb).trans hc, hfatal_c⟩

/-- Requests without bad answers stop nothing. -/
theorem of_only (h : Only (fun r => ∀ a, ¬bad ⟨r, a⟩) p) : StopsAt bad (fun _ => False) p := by
  induction p with
  | done a => exact id
  | call r k ih => exact fun a => ⟨fun hbad => absurd hbad (h.1 a), fun _ => ih a (h.2 a)⟩

theorem after_only {f : α → Program Req Ans β} (h : Only (fun r => ∀ a, ¬bad ⟨r, a⟩) p)
    (hf : ∀ a, StopsAt bad fatal' (f a)) : StopsAt bad fatal' (p.bind f) :=
  (of_only h).bind (fun _ => False.elim) fun a _ => hf a

/-- The value of a run is fatal exactly if there is a bad exchange. -/
theorem fatal_iff (h : StopsAt bad fatal p) (handle : (r : Req) → StateM σ (Ans r)) (t : σ) :
    fatal (p.run handle t).1 ↔ ∃ x ∈ p.exchanges handle t, bad x := by
  induction p generalizing t with
  | done a => exact iff_of_false h (by simp [exchanges])
  | call r k ih =>
    obtain ⟨hbad, hgood⟩ := h (handle r t).1
    by_cases hx : bad ⟨r, (handle r t).1⟩
    · obtain ⟨b, hb, hfatal⟩ := hbad hx
      have hvalue : ((call r k).run handle t).1 = b :=
        congrArg (fun q => (q.run handle (handle r t).2).1) hb
      exact iff_of_true (hvalue ▸ hfatal) ⟨_, List.mem_cons_self, hx⟩
    · simp only [exchanges, List.mem_cons, exists_eq_or_imp, or_iff_right hx]
      exact ih _ (hgood hx) _

theorem last (h : StopsAt bad fatal p) (handle : (r : Req) → StateM σ (Ans r)) (t : σ) :
    ∀ x ∈ (p.exchanges handle t).dropLast, ¬bad x := by
  induction p generalizing t with
  | done a => simp [exchanges]
  | call r k ih =>
    obtain ⟨hbad, hgood⟩ := h (handle r t).1
    rw [exchanges]
    by_cases hx : bad ⟨r, (handle r t).1⟩
    · obtain ⟨b, hb, -⟩ := hbad hx
      simp [hb, exchanges]
    · have hrest := ih _ (hgood hx) (handle r t).2
      cases hlist : (k (handle r t).1).exchanges handle (handle r t).2 with
      | nil => simp
      | cons y ys =>
        rw [hlist] at hrest
        rw [List.dropLast_cons_of_ne_nil (List.cons_ne_nil y ys)]
        exact List.forall_mem_cons.2 ⟨hx, hrest⟩

end StopsAt

/-- A program limited to requests of a kind exchanges no others. -/
theorem Only.exchanges {P : Req → Prop} {p : Program Req Ans α} (hp : Only P p)
    (handle : (r : Req) → StateM σ (Ans r)) (t : σ) : ∀ x ∈ p.exchanges handle t, P x.request := by
  induction p generalizing t with
  | done a => exact nofun
  | call r k ih => exact List.forall_mem_cons.2 ⟨hp.1, ih _ (hp.2 _) _⟩

/-- Handlers that answer the requests of a kind alike take a program limited to it to the same
end. -/
theorem Only.run_congr {P : Req → Prop} {p : Program Req Ans α} (hp : Only P p)
    {handle handle' : (r : Req) → StateM σ (Ans r)} (h : ∀ r, P r → handle r = handle' r) (t : σ) :
    p.run handle t = p.run handle' t := by
  induction p generalizing t with
  | done a => rfl
  | call r k ih =>
    change (k (handle r t).1).run handle (handle r t).2 =
      (k (handle' r t).1).run handle' (handle' r t).2
    rw [h r hp.1]
    exact ih _ (hp.2 _) _

end Program
end HealthAgent
