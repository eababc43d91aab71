import HealthAgent.Text.Cut
import HealthAgent.Text.Ranges
import HealthAgent.Url.Composed
import HealthAgent.Url.Direction
import HealthAgent.Url.DomainTable
import HealthAgent.Url.Joiner
import HealthAgent.Url.Punycode
/-!
# Domain names

A domain name is brought into its ASCII form: its characters are folded, the text is composed, and
each label between dots that is not ASCII is written in Punycode after `xn--`. A label that is
written so already has to be the form of an allowed label, and the labels together have to keep
their directions.

Results:
* `foldChar?_ascii`: in ASCII a character is folded to its small letter.
-/
namespace HealthAgent.Url

/-- What a character stands for by the rows of runs. -/
def runTarget? (n : Nat) : Option Char :=
  replacementRuns.findSome? fun (first, last, step, target) =>
    if first ≤ n && n ≤ last && (n - first) % step = 0 then some (Char.ofNat (target + (n - first)))
    else none

/-- What a character stands for by the rows of texts. -/
def textTarget? (n : Nat) : Option (List Char) :=
  replacementTexts.findSome? fun (first, texts) =>
    if first ≤ n then (Text.fields '|' texts.toList)[n - first]? else none

/-- What a character becomes in a domain name; none if it is not allowed. -/
def foldChar? (c : Char) : Option (List Char) :=
  if c.toNat < 0x80 then some [c.toLower]
  else if Text.inRanges forbiddenRanges c then none
  else if Text.inRanges ignoredRanges c then some []
  else match runTarget? c.toNat with
    | some t => some [t]
    | none => some ((textTarget? c.toNat).getD [c])

/-- The characters that no domain name holds. -/
def domainForbidden : List Char := " #%/:<>?@[\\]^|".toList

/-- Whether an ASCII character may stand in a domain name. -/
def isDomainAscii (c : Char) : Bool :=
  0x20 < c.toNat && c.toNat < 0x7F && !domainForbidden.contains c

def isAscii (cs : List Char) : Bool := cs.all (·.toNat < 0x80)

/-- The longest label beyond ASCII, in plain characters. -/
def maxPlainLength : Nat := 1000

/-- Whether plain characters are a label beyond ASCII: they do not start with a mark, and joiners
stand where they may. -/
def isLabel (plain : List Char) : Bool :=
  !isAscii plain && plain.length ≤ maxPlainLength && !plain.head?.any isMark && joinersFit [] plain

/-- A label of a domain name. -/
structure Label where
  /-- Its characters. -/
  plain : List Char
  /-- Its form in ASCII. -/
  written : List Char

/-- What a label in Punycode starts with. -/
def punycodeLead : List Char := "xn--".toList

/-- The longest text after the lead that is read as Punycode. -/
def maxWrittenLength : Nat := 2000

/-- Reads the text after the lead of a label in Punycode: it has to stand for folded and composed
characters. -/
def readPunycode? (text : List Char) : Option (List Char) := do
  if isAscii text && text.length ≤ maxWrittenLength && text.getLast?.any (· ≠ '-') then
    let plain ← Punycode.decode? text
    if plain.all (fun c => foldChar? c = some [c]) && composed plain = plain then return plain
    else none
  else none

/-- Reads a label of folded and composed characters. -/
def readLabel? (label : List Char) : Option Label :=
  match Text.dropLead? punycodeLead label with
  | some text => do
    let plain ← readPunycode? text
    if isLabel plain then return ⟨plain, label⟩ else none
  | none =>
    if isAscii label then some ⟨label, label⟩
    else if isLabel label then some ⟨label, punycodeLead ++ Punycode.encode label⟩
    else none

def domainToAscii? (name : List Char) : Option (List Char) := do
  let folded := composed (← name.mapM foldChar?).flatten
  if folded.all fun c => 0x80 ≤ c.toNat || isDomainAscii c then
    let labels ← (Text.fields '.' folded).mapM readLabel?
    if keepDirections (labels.map (·.plain)) then
      return List.intercalate ['.'] (labels.map (·.written))
    else none
  else none

theorem foldChar?_ascii (c : Char) (h : c.toNat < 0x80) : foldChar? c = some [c.toLower] := by
  simp [foldChar?, h]

end HealthAgent.Url
