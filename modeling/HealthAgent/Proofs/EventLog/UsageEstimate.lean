import Mathlib.Algebra.Order.Field.Basic
import Mathlib.Data.Rat.Cast.Order
import HealthAgent.EventLog.Usage
import HealthAgent.Proofs.Number.Numeral
/-!
# The estimate of the usage

Where the controller reports no percentage, the usage is estimated from the number of entries, the free
space and the size of an entry. The product and the sum each stay at the largest number of 64 bits. The
estimate is a share of a whole all the same, and more entries or less free space never make it smaller:
where the sum stays at the limit, the whole is what it was or smaller than the exact one, and the bytes
in use still grow.

What is said of the size of an estimate is said of its exact quotient.

Results:
* `estimate?_eq_some_iff`: which statistics have an estimate.
* `Estimate.exact_le_hundred`: the exact percentage is none above a hundred.
* `Estimate.exact_mono`: more entries or less free space, no smaller percentage.
* `usage_estimate_sound`: when there is an estimate, of which two numbers, and how it changes.
-/
namespace HealthAgent.LogUsage
open Text Number

/-! ## What the controller tells -/

/-- The statistics tell the number of entries and the free space, as whole numbers of 64 bits between
blanks; the free space may have letters beside it. -/
def TellsSizes (info : Dict String) (entries free : Nat) : Prop :=
  (∃ text, info.get? "Entries" = some text ∧ Spells 10 (trim text.toList) entries) ∧
  ∃ text, info.get? "Free Space" = some text ∧
    Spells 10 (trim (text.toList.filter (!·.isAlpha))) free

variable {info : Dict String} {entries free : Nat}

theorem toOption_read_eq_some_iff {cs : List Char} {n : Nat} :
    (read 10 cs).toOption = some n ↔ Spells 10 cs n := by
  rw [← read_eq_ok_iff]
  cases read 10 cs <;> simp [Except.toOption]

theorem entries?_eq_some_iff : entries? info = some entries ↔
    ∃ text, info.get? "Entries" = some text ∧ Spells 10 (trim text.toList) entries := by
  simp [entries?, Option.bind_eq_some_iff, toOption_read_eq_some_iff]

theorem free?_eq_some_iff : free? info = some free ↔
    ∃ text, info.get? "Free Space" = some text ∧
      Spells 10 (trim (text.toList.filter (!·.isAlpha))) free := by
  simp [free?, Option.bind_eq_some_iff, toOption_read_eq_some_iff]

/-- There is an estimate exactly of statistics that tell both sizes and leave room for something. -/
theorem estimate?_eq_some_iff {entrySize : UInt64} {e : Estimate} :
    estimate? info entrySize = some e ↔ ∃ entries free, TellsSizes info entries free ∧
      e = Estimate.make entries free entrySize.toNat ∧ e.total ≠ 0 := by
  simp only [TellsSizes, ← entries?_eq_some_iff, ← free?_eq_some_iff]
  unfold estimate?
  constructor
  · intro h
    obtain ⟨entries, hentries, h⟩ := Option.bind_eq_some_iff.1 h
    obtain ⟨free, hfree, h⟩ := Option.bind_eq_some_iff.1 h
    dsimp only at h
    split at h
    · cases h
    · next htotal =>
      cases h
      exact ⟨entries, free, ⟨hentries, hfree⟩, rfl, htotal⟩
  · rintro ⟨entries, free, ⟨hentries, hfree⟩, rfl, htotal⟩
    simp [hentries, hfree, htotal]

/-! ## The exact quotient -/

namespace Estimate

/-- The exact percentage of an estimate. -/
def exact (e : Estimate) : ℚ := 100 * e.used / e.total

theorem make_used (entries free size : Nat) :
    (make entries free size).used = min (entries * size) limit := rfl

theorem make_total (entries free size : Nat) :
    (make entries free size).total = min (free + (make entries free size).used) limit := rfl

theorem lt_two_pow (entries free size : Nat) :
    (make entries free size).used < 2 ^ 64 ∧ (make entries free size).total < 2 ^ 64 := by
  have hlimit : limit = 2 ^ 64 - 1 := rfl
  rw [make_total, make_used]
  omega

theorem exact_nonneg (e : Estimate) : 0 ≤ e.exact := by
  unfold exact
  positivity

/-- The exact percentage is none above a hundred. -/
theorem exact_le_hundred (entries free size : Nat) : (make entries free size).exact ≤ 100 := by
  have hle : ((make entries free size).used : ℚ) ≤ (make entries free size).total := by
    exact_mod_cast used_le_total entries free size
  unfold exact
  exact div_le_of_le_mul₀ (by positivity) (by norm_num) (by linarith)

theorem used_mono {more : Nat} (h : entries ≤ more) (free less size : Nat) :
    (make entries free size).used ≤ (make more less size).used := by
  have hmul := Nat.mul_le_mul_right size h
  rw [make_used, make_used]
  omega

/-- Two estimates compared without a division. The whole of the first is either the sum itself or the
limit, and the whole of the second is at most each of these. -/
theorem cross_le {more less : Nat} (hentries : entries ≤ more) (hfree : less ≤ free) (size : Nat) :
    (make entries free size).used * (make more less size).total ≤
      (make more less size).used * (make entries free size).total := by
  have hused := used_mono hentries free less size
  rw [make_total, make_total]
  generalize (make entries free size).used = used at hused ⊢
  generalize (make more less size).used = used' at hused ⊢
  rcases Nat.le_total (free + used) limit with hsum | hsum
  · rw [Nat.min_eq_left hsum]
    calc used * min (less + used') limit
        ≤ used * (less + used') := Nat.mul_le_mul_left _ (Nat.min_le_left _ _)
      _ = used * less + used' * used := by rw [Nat.mul_add, Nat.mul_comm used used']
      _ ≤ used' * free + used' * used := Nat.add_le_add_right (Nat.mul_le_mul hused hfree) _
      _ = used' * (free + used) := (Nat.mul_add _ _ _).symm
  · rw [Nat.min_eq_right hsum]
    exact Nat.mul_le_mul hused (Nat.min_le_right _ _)

/-- More entries or less free space, no smaller percentage. -/
theorem exact_mono {more less : Nat} (hentries : entries ≤ more) (hfree : less ≤ free) (size : Nat) :
    (make entries free size).exact ≤ (make more less size).exact := by
  have hle := used_le_total entries free size
  have hused := used_mono hentries free less size
  have hle' := used_le_total more less size
  have hcross := cross_le hentries hfree size
  by_cases hzero : (make entries free size).used = 0
  · have hfirst : (make entries free size).exact = 0 := by simp [exact, hzero]
    rw [hfirst]
    exact exact_nonneg _
  have htotal : (0 : ℚ) < (make entries free size).total := by
    exact_mod_cast (by omega : 0 < (make entries free size).total)
  have htotal' : (0 : ℚ) < (make more less size).total := by
    exact_mod_cast (by omega : 0 < (make more less size).total)
  have hcross : ((make entries free size).used : ℚ) * (make more less size).total ≤
      (make more less size).used * (make entries free size).total := by exact_mod_cast hcross
  unfold exact
  rw [div_le_div_iff₀ htotal htotal']
  linarith

end Estimate

/-! ## The usage where no percentage is reported -/

/-- **The estimate is safe and monotone.** Without a percentage there is a usage exactly where the
controller tells the number of entries and the free space and the whole is not zero; it is then the
quotient of two words of 64 bits, of which the second is not zero. The first is at most the second, so
that the exact quotient is a percentage; it never falls when entries are added or free space is lost,
also where the product or the sum stays at the limit. -/
theorem usage_estimate_sound (hreported : reported? info = none) (entrySize : UInt64) :
    (∀ percent, percentUsed? info entrySize = some percent ↔ ∃ entries free,
      TellsSizes info entries free ∧ (Estimate.make entries free entrySize.toNat).total ≠ 0 ∧
      percent = (Estimate.make entries free entrySize.toNat).percent) ∧
    (∀ entries free e, e = Estimate.make entries free entrySize.toNat →
      e.used = min (entries * entrySize.toNat) (2 ^ 64 - 1) ∧
      e.total = min (free + e.used) (2 ^ 64 - 1) ∧
      e.used.toUInt64.toNat = e.used ∧ e.total.toUInt64.toNat = e.total ∧
      e.used ≤ e.total ∧ 0 ≤ e.exact ∧ e.exact ≤ 100) ∧
    ∀ entries more free less, entries ≤ more → less ≤ free →
      (Estimate.make entries free entrySize.toNat).exact ≤
        (Estimate.make more less entrySize.toNat).exact := by
  refine ⟨fun percent => ?_, ?_, fun entries more free less hentries hfree =>
    Estimate.exact_mono hentries hfree _⟩
  · rw [percentUsed?, hreported]
    change (estimate? info entrySize).map Estimate.percent = some percent ↔ _
    simp only [Option.map_eq_some_iff, estimate?_eq_some_iff]
    constructor
    · rintro ⟨e, ⟨entries, free, htold, rfl, htotal⟩, rfl⟩
      exact ⟨entries, free, htold, htotal, rfl⟩
    · rintro ⟨entries, free, htold, htotal, rfl⟩
      exact ⟨_, ⟨entries, free, htold, rfl, htotal⟩, rfl⟩
  · rintro entries free e rfl
    obtain ⟨hused, htotal⟩ := Estimate.lt_two_pow entries free entrySize.toNat
    refine ⟨rfl, rfl, ?_, ?_, Estimate.used_le_total .., Estimate.exact_nonneg _,
      Estimate.exact_le_hundred ..⟩
    · exact Nat.mod_eq_of_lt hused
    · exact Nat.mod_eq_of_lt htotal

/-- Statistics of a controller that does not know the percentage. -/
def unknownPercentage : Dict String :=
  .ofList [("Entries", "95"), ("Free Space", "14448 bytes"), ("Percent Used", "unknown")]

theorem usage_estimate_sound_unknown :
    reported? unknownPercentage = none ∧
      percentUsed? unknownPercentage 16 = some (Estimate.mk 1520 15968).percent := by
  have hreported : reported? unknownPercentage = none :=
    Option.isNone_iff_eq_none.1 (by decide +kernel)
  have hentries : entries? unknownPercentage = some 95 := by decide +kernel
  have hfree : free? unknownPercentage = some 14448 := by decide +kernel
  refine ⟨hreported, ((usage_estimate_sound hreported 16).1 _).2 ⟨95, 14448, ?_, by decide, rfl⟩⟩
  exact ⟨entries?_eq_some_iff.1 hentries, free?_eq_some_iff.1 hfree⟩

end HealthAgent.LogUsage
