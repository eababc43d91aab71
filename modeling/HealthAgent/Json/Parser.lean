import HealthAgent.Json.Basic
import HealthAgent.Number.Digits
/-!
# Reading JSON texts

`scan` reads one value from the front of a text and keeps the fields of objects as they are
written. `parse?` reads a whole text into a canonical value: it allows blanks around the value,
nothing else, at most 127 levels of nesting, and no number past the largest finite one.

A number with a fraction or an exponent, or past 64 bits, is a floating-point number: its leading
digits that fit into 64 bits, scaled once by a power of ten. Both the digits and the scaling are
rounded, so the result may be a neighbour of the nearest one.

Loose reading passes over a value that nobody asks for: it has no limit on nesting, and it takes
half of a pair of escapes for a replacement character.

Reading fails on malformed text without saying where.

Results:
* `skipBlank_cons`: a blank in front of a value is skipped.
-/
namespace HealthAgent.Json
open HealthAgent.Number

def isBlank (c : Char) : Bool :=
  c = ' ' || c = '\n' || c = '\r' || c = '\t'

/-- A text without leading blanks. -/
def skipBlank (cs : List Char) : List Char :=
  cs.dropWhile isBlank

theorem skipBlank_cons {c : Char} (h : isBlank c = true) (cs : List Char) :
    skipBlank (c :: cs) = skipBlank cs := by
  simp [skipBlank, h]

/-- The bits of positive infinity, which stand for a number past the largest finite one. -/
def infinityBits : UInt64 := 0x7FF0000000000000

/-- `f · 10 ^ exponent`, scaled in steps of at most 308 decimal places; `none` past the largest
finite number. -/
def scaleByTen : Nat → Float → Int → Option Float
  | 0, f, _ => some f
  | steps + 1, f, exponent =>
    if exponent.natAbs ≤ 308 then
      let power := Float.ofScientific 1 false exponent.natAbs
      if exponent ≥ 0 then
        let g := f * power
        if g.isInf then none else some g
      else some (f / power)
    else if f == 0.0 then some f
    else if exponent ≥ 0 then none
    else scaleByTen steps (f / Float.ofScientific 1 false 308) (exponent + 308)

/-- Appends digits to a significand as long as it stays below `2 ^ 64`; the number of digits
appended and of those left over. -/
def appendDigits : Nat → List Char → Nat × Nat × Nat
  | acc, [] => (acc, 0, 0)
  | acc, c :: cs =>
    let next := acc * 10 + (c.toNat - 48)
    if next < 2 ^ 64 then
      let (value, used, left) := appendDigits next cs
      (value, used + 1, left)
    else (acc, 0, cs.length + 1)

def digitsValue (ds : List Char) : Nat :=
  ds.foldl (fun n c => n * 10 + (c.toNat - 48)) 0

/-- The number with these digits before and after the point and this exponent. -/
def floatOf (negative : Bool) (whole fraction : List Char) (exponent : Int) : Number :=
  let (high, _, left) := appendDigits 0 whole
  let (significand, used, _) := appendDigits high fraction
  match scaleByTen 4 significand.toUInt64.toFloat (exponent + left - used) with
  | some f => .float (if negative then (-f).toBits else f.toBits)
  | none => .float infinityBits

/-- The number written with these digits alone. -/
def wholeOf (negative : Bool) (digits : List Char) : Number :=
  let n := digitsValue digits
  if negative then
    if 0 < n ∧ n ≤ 2 ^ 63 then .whole (-n) else floatOf negative digits [] 0
  else
    if n < 2 ^ 64 then .whole n else floatOf negative digits [] 0

/-- The leading digits of a text, and the text after them. -/
def takeDigits (cs : List Char) : List Char × List Char :=
  (cs.takeWhile Char.isDigit, cs.dropWhile Char.isDigit)

/-- Reads the exponent of a number, if there is one. -/
def readExponent? : List Char → Option (Option Int × List Char)
  | e :: cs =>
    if e = 'e' ∨ e = 'E' then
      let (negative, cs) := match cs with
        | '-' :: r => (true, r)
        | '+' :: r => (false, r)
        | r => (false, r)
      let (ds, rest) := takeDigits cs
      if ds.isEmpty then none
      else
        let n : Int := digitsValue ds
        some (some (if negative then -n else n), rest)
    else some (none, e :: cs)
  | [] => some (none, [])

/-- Reads a number without its sign. -/
def readUnsigned? (negative : Bool) (cs : List Char) : Option (Number × List Char) :=
  let (whole, rest) := takeDigits cs
  if whole.isEmpty || (whole.head? = some '0' && whole.length > 1) then none
  else
    match rest with
    | '.' :: r =>
      let (fraction, rest) := takeDigits r
      if fraction.isEmpty then none
      else (readExponent? rest).map fun (e, rest) =>
        (floatOf negative whole fraction (e.getD 0), rest)
    | rest => (readExponent? rest).map fun (e, rest) =>
        match e with
        | some e => (floatOf negative whole [] e, rest)
        | none => (wholeOf negative whole, rest)

def readNumber? : List Char → Option (Number × List Char)
  | '-' :: cs => readUnsigned? true cs
  | cs => readUnsigned? false cs

/-- The value of four hexadecimal digits. -/
def hex4? (a b c d : Char) : Option Nat := do
  return ((← digitValue? 16 a) * 16 + (← digitValue? 16 b)) * 256 +
    (← digitValue? 16 c) * 16 + (← digitValue? 16 d)

/-- The character of an escape of one letter. -/
def escaped? : Char → Option Char
  | '"' => some '"'
  | '\\' => some '\\'
  | '/' => some '/'
  | 'b' => some '\x08'
  | 'f' => some '\x0c'
  | 'n' => some '\n'
  | 'r' => some '\r'
  | 't' => some '\t'
  | _ => none

/-- How a text is read. -/
inductive Care where
  /-- Every string has to be a text. -/
  | strict
  /-- Escapes only have to be written well. -/
  | loose
  deriving DecidableEq, Repr

/-- The character that stands for an escape without a meaning, if there may be one. -/
def meaningless? : Care → Option Char
  | .strict => none
  | .loose => some '\uFFFD'

/-- Reads the digits of an escape by number; two such escapes make a character past `U+FFFF`. -/
def readEscape? (care : Care) : List Char → Option (Char × List Char)
  | a :: b :: c :: d :: cs =>
    match hex4? a b c d with
    | none => none
    | some n =>
      let alone := (meaningless? care).map (·, cs)
      if 0xDC00 ≤ n ∧ n < 0xE000 then alone
      else if 0xD800 ≤ n ∧ n < 0xDC00 then
        match cs with
        | '\\' :: 'u' :: e :: f :: g :: h :: rest =>
          match hex4? e f g h with
          | none => none
          | some low =>
            if 0xDC00 ≤ low ∧ low < 0xE000 then
              some (Char.ofNat (0x10000 + (n - 0xD800) * 0x400 + (low - 0xDC00)), rest)
            else alone
        | _ => alone
      else some (Char.ofNat n, cs)
  | _ => none

/-- Reads one character of a string, escaped or not. -/
def readChar? (care : Care) : List Char → Option (Char × List Char)
  | '\\' :: 'u' :: cs => readEscape? care cs
  | '\\' :: c :: cs => (escaped? c).map (·, cs)
  | '\\' :: [] => none
  | c :: cs => if c.toNat < 0x20 then none else some (c, cs)
  | [] => none

/-- Reads the rest of a string after its opening quote, at most `fuel` characters. -/
def readString? (care : Care) : Nat → List Char → Option (List Char × List Char)
  | _, '"' :: rest => some ([], rest)
  | 0, _ => none
  | fuel + 1, cs =>
    match readChar? care cs with
    | none => none
    | some (c, rest) => (readString? care fuel rest).map fun (s, rest) => (c :: s, rest)

/-- Reads a word after its first letter. -/
def readWord? (tail : List Char) (value : Json) (cs : List Char) : Option (Json × List Char) :=
  if tail.isPrefixOf cs then some (value, cs.drop tail.length) else none

mutual

/-- Reads one value; `depth` more levels may be opened. -/
def scan? (care : Care) : (fuel depth : Nat) → List Char → Option (Json × List Char)
  | 0, _, _ => none
  | fuel + 1, depth, cs =>
    match skipBlank cs with
    | '"' :: r => (readString? care r.length r).map fun (s, rest) => (.string (.ofList s), rest)
    | '[' :: r =>
      if depth = 0 then none
      else
        match skipBlank r with
        | ']' :: rest => some (.array [], rest)
        | r => (scanItems? care fuel (depth - 1) r).map fun (items, rest) => (.array items, rest)
    | '\x7b' :: r =>
      if depth = 0 then none
      else
        match skipBlank r with
        | '\x7d' :: rest => some (.object [], rest)
        | r => (scanFields? care fuel (depth - 1) r).map fun (fields, rest) => (.object fields, rest)
    | 'n' :: r => readWord? "ull".toList .null r
    | 't' :: r => readWord? "rue".toList (.bool true) r
    | 'f' :: r => readWord? "alse".toList (.bool false) r
    | r => (readNumber? r).map fun (n, rest) => (.number n, rest)

/-- Reads one or more items and the closing bracket. -/
def scanItems? (care : Care) : (fuel depth : Nat) → List Char → Option (List Json × List Char)
  | 0, _, _ => none
  | fuel + 1, depth, cs =>
    match scan? care fuel depth cs with
    | none => none
    | some (item, r) =>
      match skipBlank r with
      | ']' :: rest => some ([item], rest)
      | ',' :: r => (scanItems? care fuel depth r).map fun (items, rest) => (item :: items, rest)
      | _ => none

/-- Reads one or more fields and the closing brace. -/
def scanFields? (care : Care) : (fuel depth : Nat) → List Char → Option (List (String × Json) × List Char)
  | 0, _, _ => none
  | fuel + 1, depth, cs =>
    match skipBlank cs with
    | '"' :: r =>
      match readString? care r.length r with
      | none => none
      | some (name, r) =>
        match skipBlank r with
        | ':' :: r =>
          match scan? care fuel depth r with
          | none => none
          | some (value, r) =>
            let field := (String.ofList name, value)
            match skipBlank r with
            | '\x7d' :: rest => some ([field], rest)
            | ',' :: r => (scanFields? care fuel depth r).map fun (fs, rest) => (field :: fs, rest)
            | _ => none
        | _ => none
    | _ => none

end

/-- The levels of nesting that a text may have. -/
def maxDepth : Nat := 127

/-- Reads a whole text as one value, with the fields of objects as written. -/
def scanAll? (cs : List Char) : Option Json :=
  match scan? .strict (2 * cs.length + 2) maxDepth cs with
  | some (j, rest) => if (skipBlank rest).isEmpty then some j else none
  | none => none

/-- The text after the value at the front of a text; the value is only passed over. -/
def passOver? (cs : List Char) : Option (List Char) :=
  (scan? .loose (2 * cs.length + 2) cs.length cs).map (·.2)

mutual

/-- Whether every number of a value is finite. -/
def isFinite : Json → Bool
  | .number n => n ≠ .float infinityBits
  | .array items => itemsFinite items
  | .object fields => fieldsFinite fields
  | _ => true

def itemsFinite : List Json → Bool
  | [] => true
  | item :: rest => isFinite item && itemsFinite rest

def fieldsFinite : List (String × Json) → Bool
  | [] => true
  | (_, value) :: rest => isFinite value && fieldsFinite rest

end

/-- Reads a whole text as one canonical value. -/
def parse? (text : String) : Option Json :=
  (scanAll? text.toList).bind fun j => if isFinite j then some j.canonical else none

/-- Reads the bytes of a text as one canonical value. -/
def parseBytes? (bytes : ByteArray) : Option Json :=
  (String.fromUTF8? bytes).bind parse?

end HealthAgent.Json
