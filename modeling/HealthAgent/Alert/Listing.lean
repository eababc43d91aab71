import HealthAgent.Alert.Record
import HealthAgent.Text.Blank
import HealthAgent.Text.Lines
/-!
# Listings in one line (specification §4.4, §B.5)

A management controller prints the events that a sensor can raise as bracketed texts on several
lines. An alert carries them as one line: the parts between line ends and commas, without brackets
and with single spaces between words, separated by a comma and a space.

Results:
* `get?_flattenListings`: only the properties that hold listings are changed.
-/
namespace HealthAgent
open Text

def joinTexts (sep : List Char) (parts : List (List Char)) : List Char :=
  sep.intercalate parts

/-- The parts of a listing: the texts between line ends and commas that hold a word, with single
spaces between their words. -/
def listingParts (cs : List Char) : List (List Char) :=
  let unbracketed := cs.filter fun c => c ≠ '[' && c ≠ ']'
  let parts := (lines unbracketed).flatMap (·.splitOn ',')
  (parts.map fun part => joinTexts [' '] (words part)).filter (!·.isEmpty)

/-- A listing in one line. -/
def flattenListing (cs : List Char) : List Char :=
  joinTexts [',', ' '] (listingParts cs)

/-- The names of the properties that hold listings. -/
def listingNames : List String :=
  ["Deassertions Enabled", "Assertions Enabled", "Assertion Events", "States Asserted"]

/-- Attributes with every listing in one line. -/
def flattenListings (a : Attributes) : Attributes :=
  listingNames.foldl (fun a name => a.modify name fun v => .ofList (flattenListing v.toList)) a

theorem get?_flattenListings (a : Attributes) (k : String) :
    (flattenListings a).get? k =
      if k ∈ listingNames then (a.get? k).map fun v => .ofList (flattenListing v.toList)
      else a.get? k := Dict.get?_foldl_modify (by decide) _ a k

end HealthAgent
