import Mathlib.Data.List.Forall2
import Mathlib.Data.Nat.Digits.Defs
import HealthAgent.Proofs.Number.Hex
/-!
# Which texts are whole numbers

A text spells a number if it is at least one digit of the radix, after at most one `+`, and the
digits are worth the number, the last digit least. Numbers from `2 ^ 64` on are not read, however many
zeros stand before them.

Results:
* `readDigits_eq_ok_iff`: the digits read so far count as one more digit in front.
* `read_eq_ok_iff`: a text is read as exactly the number that it spells.
-/
namespace HealthAgent.Number

/-- `Spells radix text n`: the text is the number `n` in digits of a radix, below `2 ^ 64`. -/
def Spells (radix : Nat) (text : List Char) (n : Nat) : Prop :=
  ∃ digits values, (text = digits ∨ text = '+' :: digits) ∧ digits ≠ [] ∧
    List.Forall₂ (fun c d => digitValue? radix c = some d) digits values ∧
    n = Nat.ofDigits radix values.reverse ∧ n < 2 ^ 64

theorem Spells.lt {radix n : Nat} {text : List Char} (h : Spells radix text n) : n < 2 ^ 64 := by
  obtain ⟨digits, values, -, -, -, -, hlt⟩ := h
  exact hlt

theorem digitValue?_lt {radix d : Nat} {c : Char} (h : digitValue? radix c = some d) :
    d < radix := by
  simpa using (Option.filter_eq_some_iff.1 h).2

theorem le_ofDigits_concat {radix : Nat} (hradix : 0 < radix) (values : List Nat) (first : Nat) :
    first ≤ Nat.ofDigits radix (values ++ [first]) := by
  induction values with
  | nil => simp
  | cons d values ih =>
    have hmul := Nat.le_mul_of_pos_left (Nat.ofDigits radix (values ++ [first])) hradix
    rw [List.cons_append, Nat.ofDigits_cons]
    omega

theorem ofDigits_reverse_cons (radix acc d : Nat) (values : List Nat) :
    Nat.ofDigits radix ((d :: values).reverse ++ [acc]) =
      Nat.ofDigits radix (values.reverse ++ [acc * radix + d]) := by
  have hfront : Nat.ofDigits radix ([d] ++ [acc]) = Nat.ofDigits radix [acc * radix + d] := by
    rw [List.singleton_append, Nat.ofDigits_cons, Nat.ofDigits_singleton, Nat.ofDigits_singleton,
      Nat.add_comm, Nat.mul_comm]
  rw [List.reverse_cons, List.append_assoc, Nat.ofDigits_append, hfront, ← Nat.ofDigits_append]

/-- The digits read so far count as one more digit in front. -/
theorem readDigits_eq_ok_iff {radix acc n : Nat} (hacc : acc < 2 ^ 64) (cs : List Char) :
    readDigits radix acc cs = .ok n ↔
      ∃ values, List.Forall₂ (fun c d => digitValue? radix c = some d) cs values ∧
        n = Nat.ofDigits radix (values.reverse ++ [acc]) ∧ n < 2 ^ 64 := by
  induction cs generalizing acc with
  | nil =>
    constructor
    · intro h
      cases h
      exact ⟨[], .nil, by simp, hacc⟩
    · rintro ⟨values, hdigits, rfl, -⟩
      cases hdigits
      simp [readDigits]
  | cons c cs ih =>
    constructor
    · intro h
      rw [readDigits] at h
      split at h
      · cases h
      · next d hd =>
        split at h
        · next hfits =>
          obtain ⟨values, hdigits, hn, hlt⟩ := (ih hfits).1 h
          exact ⟨d :: values, .cons hd hdigits, hn.trans (ofDigits_reverse_cons ..).symm, hlt⟩
        · cases h
    · rintro ⟨values, hdigits, hn, hlt⟩
      cases hdigits with
      | @cons _ d _ values hd hdigits =>
        rw [ofDigits_reverse_cons] at hn
        have hfits : acc * radix + d < 2 ^ 64 :=
          Nat.lt_of_le_of_lt (hn ▸ le_ofDigits_concat (Nat.zero_lt_of_lt (digitValue?_lt hd)) ..) hlt
        simp only [readDigits, hd, if_pos hfits]
        exact (ih hfits).2 ⟨values, hdigits, hn, hlt⟩

theorem read_eq_readDigits {radix : Nat} {cs : List Char} (hne : cs ≠ [])
    (hsign : cs.head? ≠ some '+') : read radix cs = readDigits radix 0 cs := by
  obtain ⟨c, cs, rfl⟩ := List.exists_cons_of_ne_nil hne
  have hc : c ≠ '+' := by simpa using hsign
  unfold read
  split <;> simp_all

theorem read_plus {radix : Nat} {cs : List Char} (hne : cs ≠ []) :
    read radix ('+' :: cs) = readDigits radix 0 cs := by
  obtain ⟨c, cs, rfl⟩ := List.exists_cons_of_ne_nil hne
  rfl

theorem head?_ne_plus {radix : Nat} {digits : List Char} {values : List Nat}
    (h : List.Forall₂ (fun c d => digitValue? radix c = some d) digits values) :
    digits.head? ≠ some '+' := by
  cases h with
  | nil => simp
  | cons hd _ =>
    rw [List.head?_cons, ne_eq, Option.some_inj]
    rintro rfl
    simp [digitValue?] at hd

/-- A text is read as exactly the number that it spells. -/
theorem read_eq_ok_iff {radix n : Nat} {text : List Char} :
    read radix text = .ok n ↔ Spells radix text n := by
  have hdigits (digits : List Char) : readDigits radix 0 digits = .ok n ↔
      ∃ values, List.Forall₂ (fun c d => digitValue? radix c = some d) digits values ∧
        n = Nat.ofDigits radix values.reverse ∧ n < 2 ^ 64 := by
    have hzero : 0 < 2 ^ 64 := by decide
    simpa only [Nat.ofDigits_append_zero] using readDigits_eq_ok_iff hzero digits
  constructor
  · intro h
    by_cases hsign : ∃ digits, text = '+' :: digits
    · obtain ⟨digits, rfl⟩ := hsign
      have hne : digits ≠ [] := by
        rintro rfl
        cases h
      rw [read_plus hne] at h
      obtain ⟨values, hvalues⟩ := (hdigits digits).1 h
      exact ⟨digits, values, .inr rfl, hne, hvalues⟩
    · have hne : text ≠ [] := by
        rintro rfl
        cases h
      have hhead : text.head? ≠ some '+' := fun hhead =>
        hsign ⟨_, (List.eq_cons_of_mem_head? hhead)⟩
      rw [read_eq_readDigits hne hhead] at h
      obtain ⟨values, hvalues⟩ := (hdigits text).1 h
      exact ⟨text, values, .inl rfl, hne, hvalues⟩
  · rintro ⟨digits, values, rfl | rfl, hne, hvalues⟩
    · rw [read_eq_readDigits hne (head?_ne_plus hvalues.1)]
      exact (hdigits text).2 ⟨values, hvalues⟩
    · rw [read_plus hne]
      exact (hdigits digits).2 ⟨values, hvalues⟩

end HealthAgent.Number
