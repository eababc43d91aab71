import HealthAgent.Json.Basic
import HealthAgent.Number.Digits
import HealthAgent.Number.Shortest
/-!
# JSON texts

The compact form has no blanks. The indented form puts every item and field on a line of its own,
two spaces deeper than what holds it. Characters beyond ASCII stand for themselves; a quote, a
backslash and the controls below the space are escaped.

A floating-point number has the fewest digits that read back. It is written with a point, and at
least one digit after it, from `1e-5` up to `1e16`, and with an exponent beyond.

Results:
* `encodeChar_ne_newline`: no raw line break stands inside a written string.
-/
namespace HealthAgent.Json
open HealthAgent.Number

/-- The written form of one character of a string. -/
def encodeChar (c : Char) : List Char :=
  if c = '"' then ['\\', '"']
  else if c = '\\' then ['\\', '\\']
  else if c = '\x08' then ['\\', 'b']
  else if c = '\x0c' then ['\\', 'f']
  else if c = '\n' then ['\\', 'n']
  else if c = '\r' then ['\\', 'r']
  else if c = '\t' then ['\\', 't']
  else if c.toNat < 0x20 then "\\u".toList ++ (hexPadded 4 c.toNat).toList
  else [c]

/-- The written form of a string, with its quotes. -/
def printString (s : String) : List Char :=
  '"' :: s.toList.flatMap encodeChar ++ ['"']

/-- The written form of a shortest decimal number, without sign. -/
def printDecimal (d : Decimal) : List Char :=
  let ds := Nat.toDigits 10 d.digits
  -- the value is 0.d₁d₂… · 10 ^ point
  let point : Int := ds.length + d.exponent
  if 0 < point ∧ point ≤ 16 then
    if d.exponent ≥ 0 then ds ++ List.replicate d.exponent.toNat '0' ++ ['.', '0']
    else ds.take point.toNat ++ '.' :: ds.drop point.toNat
  else if -5 < point ∧ point ≤ 0 then
    '0' :: '.' :: List.replicate (-point).toNat '0' ++ ds
  else
    let e := point - 1
    let mantissa := match ds with
      | [] => []
      | [c] => [c]
      | c :: more => c :: '.' :: more
    mantissa ++ 'e' :: (if e < 0 then '-' else '+') :: Nat.toDigits 10 e.natAbs

/-- The written form of a floating-point number; one that is not finite is written `null`. -/
def printFloat (bits : UInt64) : List Char :=
  match decode? bits with
  | none => "null".toList
  | some ⟨negative, m, q⟩ =>
    let sign := if negative then ['-'] else []
    sign ++ if m = 0 then "0.0".toList else printDecimal (shortest m q)

/-- The written form of a number. -/
def printNumber : Number → List Char
  | .whole n => (if n < 0 then ['-'] else []) ++ Nat.toDigits 10 n.natAbs
  | .float bits => printFloat bits

mutual

def print : Json → List Char
  | .null => "null".toList
  | .bool true => "true".toList
  | .bool false => "false".toList
  | .number n => printNumber n
  | .string s => printString s
  | .array [] => ['[', ']']
  | .array (item :: rest) => '[' :: print item ++ printItems rest
  | .object [] => ['\x7b', '\x7d']
  | .object ((name, value) :: rest) =>
    '\x7b' :: printString name ++ ':' :: print value ++ printFields rest

/-- The items after the first, and the closing bracket. -/
def printItems : List Json → List Char
  | [] => [']']
  | item :: rest => ',' :: print item ++ printItems rest

/-- The fields after the first, and the closing brace. -/
def printFields : List (String × Json) → List Char
  | [] => ['\x7d']
  | (name, value) :: rest => ',' :: printString name ++ ':' :: print value ++ printFields rest

end

/-- A line break and the indentation of a level. -/
def newline (level : Nat) : List Char :=
  '\n' :: List.replicate (2 * level) ' '

mutual

/-- The indented text of a value that stands at a level. -/
def printIndented (level : Nat) : Json → List Char
  | .array (item :: rest) =>
    '[' :: newline (level + 1) ++ printIndented (level + 1) item ++ indentedItems level rest
  | .object ((name, value) :: rest) =>
    '\x7b' :: newline (level + 1) ++ printString name ++ ':' :: ' ' ::
      printIndented (level + 1) value ++ indentedFields level rest
  | .array [] => ['[', ']']
  | .object [] => ['\x7b', '\x7d']
  | .null => print .null
  | .bool b => print (.bool b)
  | .number n => print (.number n)
  | .string s => print (.string s)

/-- The items after the first, and the closing bracket of their level. -/
def indentedItems (level : Nat) : List Json → List Char
  | [] => newline level ++ [']']
  | item :: rest =>
    ',' :: newline (level + 1) ++ printIndented (level + 1) item ++ indentedItems level rest

/-- The fields after the first, and the closing brace of their level. -/
def indentedFields (level : Nat) : List (String × Json) → List Char
  | [] => newline level ++ ['\x7d']
  | (name, value) :: rest =>
    ',' :: newline (level + 1) ++ printString name ++ ':' :: ' ' ::
      printIndented (level + 1) value ++ indentedFields level rest

end

def compress (j : Json) : String := .ofList (print j)

def pretty (j : Json) : String := .ofList (printIndented 0 j)

theorem encodeChar_ne_newline (c : Char) : '\n' ∉ encodeChar c := by
  unfold encodeChar
  repeat' split
  all_goals first
    | decide
    | skip
  · next h =>
    have hc : c.toNat < 32 := h
    have key : ∀ n : Fin 32, '\n' ∉ ("\\u".toList ++ (hexPadded 4 n.val).toList) := by decide
    exact key ⟨c.toNat, hc⟩
  · next hn _ _ _ => simpa using Ne.symm hn

end HealthAgent.Json
