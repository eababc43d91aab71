import HealthAgent.Text.Ranges
import HealthAgent.Url.MarkTable
/-!
# Marks

A mark belongs to the letter before it. The marks of a letter stand in the order of their places;
marks of one place stay in the order in which they were written. A character at place zero is a
letter, or a mark that is not moved.

Results:
* `place_ascii`: the characters of ASCII are at place zero.
-/
namespace HealthAgent.Url

def isMark (c : Char) : Bool := 0x300 ≤ c.toNat && Text.inRanges markRanges c

/-- Whether a character is a mark without space of its own. -/
def isNonspacing (c : Char) : Bool := isMark c && !Text.inRanges spacingMarkRanges c

/-- The place of a character in the order of a letter's marks. -/
def place (c : Char) : Nat :=
  if c.toNat < 0x300 then 0
  else
    (markPlaces.findSome? fun (first, last, k) =>
      if first ≤ c.toNat && c.toNat ≤ last then some k else none).getD 0

/-- The place of a virama, the sign that takes the vowel off the letter before it. -/
def viramaPlace : Nat := 9

theorem place_ascii {c : Char} (h : c.toNat < 0x80) : place c = 0 := by
  simp [place, show c.toNat < 0x300 by omega]

end HealthAgent.Url
