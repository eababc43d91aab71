/-!
# Sets of characters as ranges

A table names a set of characters by ranges of code points with both ends.

Results:
* `inRanges_iff`: a character is in the set when one of the ranges holds it.
-/
namespace HealthAgent.Text

/-- Whether a character lies in one of the ranges. -/
def inRanges (ranges : Array (Nat × Nat)) (c : Char) : Bool :=
  ranges.any fun (first, last) => first ≤ c.toNat && c.toNat ≤ last

theorem inRanges_iff {ranges : Array (Nat × Nat)} {c : Char} :
    inRanges ranges c = true ↔ ∃ r ∈ ranges, r.1 ≤ c.toNat ∧ c.toNat ≤ r.2 := by
  rw [inRanges, Array.any_eq_true']
  simp

end HealthAgent.Text
