import HealthAgent.Number.Digits
import HealthAgent.Text.Printable
/-!
# Quoted texts

A text inside a message is quoted: it stands between double quotes, and a quote, a backslash and
every character that does not stand for itself is written as an escape.

Results:
* `encodeChar_printable`: a printable character other than quote and backslash is written as is.
-/
namespace HealthAgent.Text

/-- The written form of one character between quotes. -/
def encodeChar (c : Char) : List Char :=
  if c = '"' then ['\\', '"']
  else if c = '\\' then ['\\', '\\']
  else if c = '\n' then ['\\', 'n']
  else if c = '\r' then ['\\', 'r']
  else if c = '\t' then ['\\', 't']
  else if c.toNat = 0 then ['\\', '0']
  else if isPrintable c then [c]
  else "\\u\x7b".toList ++ Nat.toDigits 16 c.toNat ++ ['\x7d']

def quote (cs : List Char) : List Char :=
  '"' :: cs.flatMap encodeChar ++ ['"']

theorem encodeChar_printable {c : Char} (h : isPrintable c = true) (hq : c ≠ '"') (hb : c ≠ '\\') :
    encodeChar c = [c] := by
  have off (d : Char) (hd : isPrintable d = false) : c ≠ d := fun hc => by simp_all
  have hn : c ≠ '\n' := off _ (by decide)
  have hr : c ≠ '\r' := off _ (by decide)
  have ht : c ≠ '\t' := off _ (by decide)
  have h0 : c.toNat ≠ 0 := fun hc => by simp [isPrintable, hc] at h
  simp [encodeChar, hq, hb, hn, hr, ht, h0, h]

end HealthAgent.Text

namespace String

def quotedText (s : String) : String := .ofList (HealthAgent.Text.quote s.toList)

end String
