/-!
# Programs that make requests

A program is a finite tree of requests: it ends with a value, or makes a request and goes on with
the answer. Who answers the requests is left open. A handler that works in a monad runs a program
to its end; a bound on the number of requests stops it early, as a crash of the process would.

Results:
* `bind_assoc`, `bind_done`: sequencing obeys the laws of a monad.
* `run_bind`: a handler runs a sequence part by part.
-/
namespace HealthAgent

/-- A program that makes requests `r : Req`, answered by values of `Ans r`, and ends with a value
of `α`. -/
inductive Program (Req : Type) (Ans : Req → Type) (α : Type) where
  | done (a : α)
  | call (r : Req) (k : Ans r → Program Req Ans α)

namespace Program

variable {Req Req' : Type} {Ans : Req → Type} {Ans' : Req' → Type} {α β γ σ : Type}

/-- Goes on with a second program after the first has ended. -/
def bind : Program Req Ans α → (α → Program Req Ans β) → Program Req Ans β
  | done a, f => f a
  | call r k, f => call r fun a => bind (k a) f

instance : Monad (Program Req Ans) where
  pure := done
  bind := bind

/-- The program that makes one request and ends with its answer. -/
def ask (r : Req) : Program Req Ans (Ans r) := call r done

/-- Runs a program, with a handler for its requests. -/
def run {m : Type → Type} [Monad m] (h : (r : Req) → m (Ans r)) : Program Req Ans α → m α
  | done a => pure a
  | call r k => h r >>= fun a => run h (k a)

/-- Runs a program for at most `n` requests; none if it has not ended by then. -/
def runFor (h : (r : Req) → σ → Ans r × σ) : Nat → Program Req Ans α → σ → Option α × σ
  | _, done a, s => (some a, s)
  | 0, call _ _, s => (none, s)
  | n + 1, call r k, s =>
    let (a, s) := h r s
    runFor h n (k a) s

/-- A program whose requests are answered by programs over other requests. -/
def translate (f : (r : Req) → Program Req' Ans' (Ans r)) :
    Program Req Ans α → Program Req' Ans' α
  | done a => done a
  | call r k => (f r).bind fun a => translate f (k a)

@[simp] theorem bind_done (a : α) (f : α → Program Req Ans β) : (done a).bind f = f a := rfl

@[simp] theorem pure_eq (a : α) : (pure a : Program Req Ans α) = done a := rfl

@[simp] theorem bind_eq (p : Program Req Ans α) (f : α → Program Req Ans β) :
    p >>= f = p.bind f := rfl

theorem bind_pure (p : Program Req Ans α) : p.bind done = p := by
  induction p with
  | done a => rfl
  | call r k ih => simp [bind, ih]

theorem bind_assoc (p : Program Req Ans α) (f : α → Program Req Ans β)
    (g : β → Program Req Ans γ) : (p.bind f).bind g = p.bind fun a => (f a).bind g := by
  induction p with
  | done a => rfl
  | call r k ih => simp [bind, ih]

instance : LawfulMonad (Program Req Ans) :=
  LawfulMonad.mk' _ (fun p => bind_pure p) (fun _ _ => rfl) bind_assoc

theorem run_bind {m : Type → Type} [Monad m] [LawfulMonad m] (h : (r : Req) → m (Ans r))
    (p : Program Req Ans α) (f : α → Program Req Ans β) :
    (p.bind f).run h = p.run h >>= fun a => (f a).run h := by
  induction p with
  | done a => simp [run]
  | call r k ih => simp [bind, run, ih]

end Program
end HealthAgent
