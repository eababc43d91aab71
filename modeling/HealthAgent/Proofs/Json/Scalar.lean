import HealthAgent.Json.Parser
import HealthAgent.Json.Printer
import HealthAgent.Proofs.Number.Hex
/-!
# Strings and whole numbers of JSON texts read back

A string is written character by character, and every escape stands for the character that it was
written for. A whole number is written in decimal digits; it is read back where no digit, point or
exponent follows it.

Results:
* `skipBlank_append`: blanks in front of a text are skipped with anything behind it.
* `readChar?_encodeChar`: a written character is read back.
* `readString?_encoded`: a written string is read back up to its closing quote.
* `digitsValue_toDigits`: decimal digits have the value that they were written for.
* `readNumber?_printNumber`: a whole number of 64 bits is read back.
-/
namespace HealthAgent.Json
open HealthAgent.Number

/-! ## Blanks -/

theorem skipBlank_of_front {c : Char} (h : isBlank c = false) (cs : List Char) :
    skipBlank (c :: cs) = c :: cs := by
  simp [skipBlank, h]

theorem skipBlank_append {c : Char} {cs tail : List Char} (h : skipBlank cs = c :: tail)
    (rest : List Char) : skipBlank (cs ++ rest) = c :: (tail ++ rest) := by
  induction cs with
  | nil => cases h
  | cons d ds ih =>
    by_cases hd : isBlank d = true
    · rw [skipBlank_cons hd] at h
      rw [List.cons_append, skipBlank_cons hd, ih h]
    · have hd : isBlank d = false := by simpa using hd
      rw [skipBlank_of_front hd] at h
      rw [List.cons_append, skipBlank_of_front hd, ← List.cons_append, h, List.cons_append]

theorem length_skipBlank_le (cs : List Char) : (skipBlank cs).length ≤ cs.length :=
  (List.dropWhile_suffix _).length_le

theorem length_lt_of_skipBlank {c : Char} {cs tail : List Char} (h : skipBlank cs = c :: tail) :
    tail.length < cs.length := by
  have hlength := length_skipBlank_le cs
  rw [h, List.length_cons] at hlength
  omega

theorem skipBlank_skipBlank (cs : List Char) : skipBlank (skipBlank cs) = skipBlank cs := by
  induction cs with
  | nil => rfl
  | cons c cs ih =>
    by_cases hc : isBlank c = true
    · rwa [skipBlank_cons hc]
    · have hc : isBlank c = false := by simpa using hc
      rw [skipBlank_of_front hc, skipBlank_of_front hc]

/-! ## Strings -/

theorem hexPadded_control : ∀ n : Fin 32, (hexPadded 4 n.val).toList =
    ['0', '0', Nat.digitChar (n.val / 16), Nat.digitChar (n.val % 16)] := by
  decide

theorem hex4?_low {n : Nat} (h : n < 256) :
    hex4? '0' '0' (n / 16).digitChar (n % 16).digitChar = some n := by
  have hzero : digitValue? 16 '0' = some 0 := by decide
  have hhigh := digitValue?_digitChar (n / 16) (by omega)
  have hlow := digitValue?_digitChar (n % 16) (by omega)
  have hsum : n / 16 * 16 + n % 16 = n := by omega
  simp [hex4?, hzero, hhigh, hlow, hsum]

theorem readChar?_encodeChar (care : Care) (c : Char) (rest : List Char) :
    readChar? care (encodeChar c ++ rest) = some (c, rest) := by
  by_cases hplain : c = '"' ∨ c = '\\' ∨ c = '\x08' ∨ c = '\x0c' ∨ c = '\n' ∨ c = '\r' ∨ c = '\t'
  · rcases hplain with rfl | rfl | rfl | rfl | rfl | rfl | rfl <;> rfl
  simp only [not_or] at hplain
  obtain ⟨h1, h2, h3, h4, h5, h6, h7⟩ := hplain
  simp only [encodeChar, h1, h2, h3, h4, h5, h6, h7, if_false]
  split
  · next hlt =>
    have hhex := hex4?_low (n := c.toNat) (by omega)
    rw [hexPadded_control ⟨c.toNat, hlt⟩]
    change readEscape? care ('0' :: '0' :: _ :: _ :: rest) = _
    simp only [readEscape?, hhex]
    rw [if_neg (by omega), if_neg (by omega), Char.ofNat_toNat]
  · next hge =>
    rw [List.singleton_append, readChar?.eq_def]
    split <;> simp_all

theorem encodeChar_head (c : Char) : ∃ d cs, encodeChar c = d :: cs ∧ d ≠ '"' := by
  unfold encodeChar
  repeat' split
  all_goals first
    | exact ⟨_, _, rfl, by decide⟩
    | exact ⟨_, _, rfl, ‹_›⟩

theorem length_le_encoded (cs : List Char) : cs.length ≤ (cs.flatMap encodeChar).length := by
  induction cs with
  | nil => exact Nat.le_refl _
  | cons c cs ih =>
    obtain ⟨d, ds, hd, -⟩ := encodeChar_head c
    simp only [List.flatMap_cons, hd, List.length_append, List.length_cons]
    omega

/-- A written string is read back up to its closing quote. -/
theorem readString?_encoded (care : Care) (cs rest : List Char) {fuel : Nat}
    (h : cs.length ≤ fuel) :
    readString? care fuel (cs.flatMap encodeChar ++ '"' :: rest) = some (cs, rest) := by
  induction cs generalizing fuel with
  | nil => cases fuel <;> rfl
  | cons c cs ih =>
    obtain ⟨fuel, rfl⟩ : ∃ k, fuel = k + 1 := ⟨fuel - 1, by simp at h; omega⟩
    have htail := ih (by simpa using h)
    have hread := readChar?_encodeChar care c (cs.flatMap encodeChar ++ '"' :: rest)
    obtain ⟨d, ds, hd, hne⟩ := encodeChar_head c
    rw [List.flatMap_cons, List.append_assoc]
    rw [hd, List.cons_append] at hread ⊢
    rw [readString?]
    · simp [hread, htail]
    · rintro r ⟨⟩
      exact hne rfl

/-! ## Whole numbers -/

theorem digitsValue_append (xs : List Char) (c : Char) :
    digitsValue (xs ++ [c]) = digitsValue xs * 10 + (c.toNat - 48) := by
  simp [digitsValue]

theorem toNat_digitChar_sub (d : Nat) (h : d < 10) : d.digitChar.toNat - 48 = d := by
  have key : ∀ d, d < 10 → d.digitChar.toNat - 48 = d := by decide
  exact key d h

theorem digitsValue_toDigits (n : Nat) : digitsValue (Nat.toDigits 10 n) = n := by
  induction n using Nat.strongRecOn with
  | ind n ih =>
    rw [Nat.toDigits_eq_if (by decide)]
    split
    · rename_i hlt
      simpa [digitsValue] using toNat_digitChar_sub n hlt
    · rename_i hge
      rw [digitsValue_append, ih (n / 10) (by omega), toNat_digitChar_sub _ (by omega)]
      omega

theorem toDigits_front (n : Nat) :
    ∃ d ds, Nat.toDigits 10 n = d :: ds ∧ d.isDigit = true := by
  obtain ⟨d, ds, hd⟩ := List.exists_cons_of_ne_nil (Nat.toDigits_ne_nil (b := 10) (n := n))
  have hmem : d ∈ Nat.toDigits 10 n := hd ▸ List.mem_cons_self
  exact ⟨d, ds, hd, Nat.isDigit_of_mem_toDigits (by decide) (by decide) hmem⟩

theorem digitChar_eq_zero (d : Nat) (h : d < 10) (hd : d.digitChar = '0') : d = 0 := by
  have key : ∀ d, d < 10 → d.digitChar = '0' → d = 0 := by decide
  exact key d h hd

theorem toDigits_head_zero {n : Nat} (h : (Nat.toDigits 10 n).head? = some '0') : n = 0 := by
  induction n using Nat.strongRecOn with
  | ind n ih =>
    rw [Nat.toDigits_eq_if (by decide)] at h
    split at h
    · rename_i hlt
      exact digitChar_eq_zero n hlt (by simpa using h)
    · rename_i hge
      rw [List.head?_append, Option.or_eq_some_iff] at h
      rcases h with h | ⟨h, -⟩
      · have := ih (n / 10) (by omega) h
        omega
      · exact absurd (List.head?_eq_none_iff.1 h) Nat.toDigits_ne_nil

/-- `Ended rest`: nothing at the front of `rest` can be taken for a part of a number. -/
def Ended (rest : List Char) : Prop :=
  ∀ c ∈ rest.head?, c.isDigit = false ∧ c ≠ '.' ∧ c ≠ 'e' ∧ c ≠ 'E'

theorem ended_nil : Ended [] := by
  rintro c ⟨⟩

theorem ended_of_skipBlank {c : Char} {cs next : List Char} (h : skipBlank cs = c :: next)
    (hc : c ∈ [',', ']', '\x7d']) (rest : List Char) : Ended (cs ++ rest) := by
  cases cs with
  | nil => cases h
  | cons d ds =>
    rintro d ⟨⟩
    by_cases hd : isBlank d = true
    · have hd : d = ' ' ∨ d = '\n' ∨ d = '\r' ∨ d = '\t' := by
        simpa [isBlank, or_assoc] using hd
      rcases hd with rfl | rfl | rfl | rfl <;> decide
    · rw [skipBlank_of_front (by simpa using hd)] at h
      cases h
      have hc : c = ',' ∨ c = ']' ∨ c = '\x7d' := by simpa using hc
      rcases hc with rfl | rfl | rfl <;> decide

theorem takeDigits_append {ds rest : List Char} (hds : ∀ c ∈ ds, c.isDigit = true)
    (hr : Ended rest) : takeDigits (ds ++ rest) = (ds, rest) := by
  have hrest : rest.takeWhile Char.isDigit = [] ∧ rest.dropWhile Char.isDigit = rest := by
    cases rest with
    | nil => exact ⟨rfl, rfl⟩
    | cons c cs => simp [(hr c rfl).1]
  rw [takeDigits, List.takeWhile_append_of_pos hds, List.dropWhile_append_of_pos hds, hrest.1,
    hrest.2, List.append_nil]

theorem readExponent?_ended {rest : List Char} (hr : Ended rest) :
    readExponent? rest = some (none, rest) := by
  cases rest with
  | nil => rfl
  | cons c cs =>
    obtain ⟨-, -, he, hE⟩ := hr c rfl
    simp [readExponent?, he, hE]

theorem readUnsigned?_toDigits (negative : Bool) (n : Nat) {rest : List Char} (hr : Ended rest) :
    readUnsigned? negative (Nat.toDigits 10 n ++ rest) =
      some (wholeOf negative (Nat.toDigits 10 n), rest) := by
  have hdigits : ∀ c ∈ Nat.toDigits 10 n, c.isDigit = true := fun c hc =>
    Nat.isDigit_of_mem_toDigits (by decide) (by decide) hc
  have hplain : ((Nat.toDigits 10 n).isEmpty ||
      ((Nat.toDigits 10 n).head? = some '0' && (Nat.toDigits 10 n).length > 1)) = false := by
    have hne : (Nat.toDigits 10 n).isEmpty = false := by simp [Nat.toDigits_ne_nil]
    by_cases hz : (Nat.toDigits 10 n).head? = some '0'
    · rw [toDigits_head_zero hz]
      decide
    · simp [hz, hne]
  rw [readUnsigned?, takeDigits_append hdigits hr]
  simp only [hplain, Bool.false_eq_true, if_false]
  split
  · next r => exact absurd rfl (hr '.' rfl).2.1
  · rw [readExponent?_ended hr]
    rfl

/-- Whether a number is a whole number of 64 bits, with or without a sign. -/
def Number.isWhole : Number → Bool
  | .whole n => -2 ^ 63 ≤ n && n < 2 ^ 64
  | .float _ => false

theorem printNumber_head {n : Number} (h : n.isWhole = true) :
    ∃ c cs, printNumber n = c :: cs ∧ (c = '-' ∨ c.isDigit = true) := by
  cases n with
  | float bits => simp [Number.isWhole] at h
  | whole n =>
    obtain ⟨d, ds, hd, hdigit⟩ := toDigits_front n.natAbs
    simp only [printNumber, hd]
    split
    · exact ⟨_, _, rfl, .inl rfl⟩
    · exact ⟨_, _, rfl, .inr hdigit⟩

theorem isBlank_of_digit {c : Char} (h : c = '-' ∨ c.isDigit = true) : isBlank c = false := by
  rcases h with rfl | hdigit
  · rfl
  · simp only [Char.isDigit, Bool.and_eq_true, decide_eq_true_eq] at hdigit
    simp only [isBlank, Bool.or_eq_false_iff, decide_eq_false_iff_not]
    refine ⟨⟨⟨?_, ?_⟩, ?_⟩, ?_⟩ <;>
    · rintro rfl
      exact absurd hdigit (by decide)

theorem skipBlank_printNumber {n : Number} (h : n.isWhole = true) :
    skipBlank (printNumber n) = printNumber n := by
  obtain ⟨c, cs, hc, hfirst⟩ := printNumber_head h
  rw [hc, skipBlank_of_front (isBlank_of_digit hfirst)]

theorem readNumber?_printNumber {n : Number} (h : n.isWhole = true) {rest : List Char}
    (hr : Ended rest) : readNumber? (printNumber n ++ rest) = some (n, rest) := by
  cases n with
  | float bits => simp [Number.isWhole] at h
  | whole n =>
    obtain ⟨hlow, hhigh⟩ : -2 ^ 63 ≤ n ∧ n < 2 ^ 64 := by simpa [Number.isWhole] using h
    by_cases hneg : n < 0
    · have hwhole : wholeOf true (Nat.toDigits 10 n.natAbs) = .whole n := by
        simp only [wholeOf, digitsValue_toDigits, if_true]
        rw [if_pos (by omega)]
        congr 1
        omega
      simp only [printNumber, if_pos hneg, List.cons_append, List.nil_append, readNumber?]
      rw [readUnsigned?_toDigits true _ hr, hwhole]
    · have hwhole : wholeOf false (Nat.toDigits 10 n.natAbs) = .whole n := by
        simp only [wholeOf, digitsValue_toDigits, Bool.false_eq_true, if_false]
        rw [if_pos (by omega)]
        congr 1
        omega
      have hminus : ∀ r, Nat.toDigits 10 n.natAbs ++ rest ≠ '-' :: r := by
        intro r heq
        obtain ⟨d, ds, hd, hdigit⟩ := toDigits_front n.natAbs
        rw [hd, List.cons_append] at heq
        cases heq
        exact absurd hdigit (by decide)
      simp only [printNumber, if_neg hneg, List.nil_append]
      rw [readNumber?.eq_def]
      split
      · next r heq => exact absurd heq (hminus r)
      · rw [readUnsigned?_toDigits false _ hr, hwhole]

end HealthAgent.Json
