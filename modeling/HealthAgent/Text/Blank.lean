/-!
# Blank characters, trimming, words

A character is blank when it has the Unicode property `White_Space`. Texts from a management
controller are padded with blanks, so nearly every field is trimmed before it is read.

Every function works on `List Char`, where proofs go by induction on the data, and has a form on
`String` beside it.

Results:
* `isBlank_of_isWhitespace`: core's class of ASCII white space is part of it.
* `trim_eq_self`: a text that neither starts nor ends with a blank is its own trimming.
-/
namespace HealthAgent.Text

/-- A character with the Unicode property `White_Space`. -/
def isBlank (c : Char) : Bool :=
  let n := c.toNat
  (9 ≤ n && n ≤ 13) || n == 0x20 || n == 0x85 || n == 0xA0 || n == 0x1680 ||
    (0x2000 ≤ n && n ≤ 0x200A) || n == 0x2028 || n == 0x2029 || n == 0x202F || n == 0x205F ||
    n == 0x3000

theorem isBlank_of_isWhitespace (c : Char) (h : c.isWhitespace = true) : isBlank c = true := by
  simp only [Char.isWhitespace, Bool.or_eq_true, decide_eq_true_eq] at h
  rcases h with ((h | h) | h) | h <;> subst h <;> decide

/-- A text without leading blanks. -/
def trimStart (cs : List Char) : List Char :=
  cs.dropWhile isBlank

/-- A text without trailing blanks. -/
def trimEnd (cs : List Char) : List Char :=
  (cs.reverse.dropWhile isBlank).reverse

/-- A text without leading and trailing blanks. -/
def trim (cs : List Char) : List Char :=
  trimEnd (trimStart cs)

/-- Whether a text holds nothing but blanks. -/
def allBlank (cs : List Char) : Bool :=
  cs.all isBlank

/-- The maximal runs of characters that are not blank, in order. -/
def words (cs : List Char) : List (List Char) :=
  (cs.splitOnP isBlank).filter (!·.isEmpty)

/-- A text in which every ASCII capital is replaced by its small letter. -/
def lower (cs : List Char) : List Char :=
  cs.map Char.toLower

theorem trim_eq_self (cs : List Char) (hfirst : ∀ c ∈ cs.head?, isBlank c = false)
    (hlast : ∀ c ∈ cs.getLast?, isBlank c = false) : trim cs = cs := by
  have drop_self (l : List Char) (h : ∀ c ∈ l.head?, isBlank c = false) :
      l.dropWhile isBlank = l := by
    cases l with
    | nil => rfl
    | cons c r => simp [h c (by simp)]
  rw [trim, trimStart, drop_self cs hfirst, trimEnd, drop_self cs.reverse (by simpa using hlast),
    List.reverse_reverse]

end HealthAgent.Text

namespace String
open HealthAgent

/-- This text without leading and trailing blanks. -/
def trimBlank (s : String) : String := .ofList (Text.trim s.toList)

/-- This text without leading blanks. -/
def trimBlankStart (s : String) : String := .ofList (Text.trimStart s.toList)

/-- Whether this text holds nothing but blanks. -/
def isAllBlank (s : String) : Bool := Text.allBlank s.toList

/-- This text with small letters for the ASCII capitals. -/
def lowerAscii (s : String) : String := .ofList (Text.lower s.toList)

end String
