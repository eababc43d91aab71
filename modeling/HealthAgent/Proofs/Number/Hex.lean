import HealthAgent.Number.Digits
import HealthAgent.Text.Blank
/-!
# Hexadecimal numbers read back

Results:
* `readDigits_append`: digits are read from the left, part by part.
* `read_toDigits`: a number below `2 ^ 64` is read back from its hexadecimal digits.
* `isBlank_of_digit`: a digit is not blank.
-/
namespace HealthAgent.Number

theorem readDigits_append (radix acc : Nat) (xs ys : List Char) :
    readDigits radix acc (xs ++ ys) = (readDigits radix acc xs).bind (readDigits radix · ys) := by
  induction xs generalizing acc with
  | nil => rfl
  | cons c cs ih =>
    simp only [List.cons_append, readDigits]
    split
    · rfl
    · split
      · exact ih _
      · rfl

theorem digitValue?_digitChar (d : Nat) (h : d < 16) : digitValue? 16 d.digitChar = some d := by
  have key : ∀ d, d < 16 → digitValue? 16 d.digitChar = some d := by decide
  exact key d h

theorem readDigits_toDigits (n : Nat) (h : n < 2 ^ 64) :
    readDigits 16 0 (Nat.toDigits 16 n) = .ok n := by
  induction n using Nat.strongRecOn with
  | ind n ih =>
    rw [Nat.toDigits_eq_if (by decide)]
    split
    · rename_i hlt
      simp only [readDigits, digitValue?_digitChar n hlt]
      rw [if_pos (by omega)]
      simp
    · rename_i hge
      have hd := digitValue?_digitChar (n % 16) (by omega)
      rw [readDigits_append, ih (n / 16) (by omega) (by omega)]
      simp only [Except.bind, readDigits, hd]
      rw [if_pos (by omega)]
      congr 1; omega

theorem isDigit_of_readDigits {radix acc v : Nat} {cs : List Char}
    (h : readDigits radix acc cs = .ok v) : ∀ c ∈ cs, (digitValue? radix c).isSome = true := by
  induction cs generalizing acc with
  | nil => simp
  | cons c cs ih =>
    simp only [readDigits] at h
    split at h
    · cases h
    · rename_i d hd
      split at h
      · intro x hx
        rcases List.mem_cons.1 hx with rfl | hx
        · rw [hd]; rfl
        · exact ih h x hx
      · cases h

theorem isDigit_of_mem_toDigits (n : Nat) (h : n < 2 ^ 64) :
    ∀ c ∈ Nat.toDigits 16 n, isHexDigit c = true :=
  isDigit_of_readDigits (readDigits_toDigits n h)

theorem read_toDigits (n : Nat) (h : n < 2 ^ 64) : read 16 (Nat.toDigits 16 n) = .ok n := by
  have hread := readDigits_toDigits n h
  have hdigit := isDigit_of_mem_toDigits n h
  cases hd : Nat.toDigits 16 n with
  | nil => exact absurd hd Nat.toDigits_ne_nil
  | cons c cs =>
    rw [hd] at hread hdigit
    have hplus : c ≠ '+' := by
      rintro rfl
      exact absurd (hdigit '+' List.mem_cons_self) (by decide)
    unfold read
    split
    · rename_i heq; cases heq
    · rename_i heq; cases heq; exact absurd rfl hplus
    · rename_i heq; cases heq; exact absurd rfl hplus
    · rename_i heq; cases heq; exact hread

theorem toNat_of_digit {c : Char} (h : isHexDigit c = true) :
    (48 ≤ c.toNat ∧ c.toNat ≤ 57) ∨ (65 ≤ c.toNat ∧ c.toNat ≤ 70) ∨
      (97 ≤ c.toNat ∧ c.toNat ≤ 102) := by
  simp only [isHexDigit, digitValue?, Option.isSome_filter] at h
  split at h
  · rename_i hd; simp at hd; omega
  split at h
  · rename_i hd; simp at hd; omega
  split at h
  · rename_i hd; simp at hd; omega
  · cases h

theorem isBlank_of_digit (c : Char) (h : isHexDigit c = true) : Text.isBlank c = false := by
  have hrange := toNat_of_digit h
  simp [Text.isBlank]
  omega

end HealthAgent.Number
