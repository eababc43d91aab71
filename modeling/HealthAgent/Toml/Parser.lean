import HealthAgent.Calendar.Date
import HealthAgent.Number.Digits
import HealthAgent.Toml.Value
/-!
# Reading configuration texts

The syntax is TOML 1.0. A text that does not follow it is refused without saying where.

Each reader takes the text from where it stands and gives what it read and the text after it. Blanks
are the space and the tab; a line ends with a line feed, alone or behind a carriage return.
-/
namespace HealthAgent.Toml

/-- The blanks within a line. -/
def isBlank (c : Char) : Bool := c = ' ' || c = '\t'

/-- A text without the blanks at its front. -/
def skipBlank (cs : List Char) : List Char := cs.dropWhile isBlank

/-- The text after a line end. -/
def newline? : List Char → Option (List Char)
  | '\n' :: cs => some cs
  | '\r' :: '\n' :: cs => some cs
  | _ => none

/-- A character that may stand in a comment. -/
def isCommentChar (c : Char) : Bool :=
  c = '\t' || (0x20 ≤ c.toNat && c.toNat ≠ 0x7F)

/-- A text without the comment at its front. -/
def skipComment : List Char → List Char
  | '#' :: cs => cs.dropWhile isCommentChar
  | cs => cs

/-- The text after the blanks, the comment and the end of a line. -/
def lineEnd? (cs : List Char) : Option (List Char) :=
  match skipComment (skipBlank cs) with
  | [] => some []
  | rest => newline? rest

/-- A text without the blanks, comments and line ends at its front. -/
def skipSpace : Nat → List Char → List Char
  | 0, cs => cs
  | fuel + 1, cs =>
    match skipComment (skipBlank cs) with
    | [] => []
    | rest =>
      match newline? rest with
      | some rest => skipSpace fuel rest
      | none => rest

/-- A character of a key without quotes. -/
def isBareChar (c : Char) : Bool :=
  c.isAlphanum || c = '_' || c = '-'

/-- A character that may stand for itself in a quoted string, apart from the quote and, between
double quotes, the backslash. -/
def isQuotedChar (c : Char) : Bool :=
  c = '\t' || (0x20 ≤ c.toNat && c.toNat ≠ 0x7F)

/-- The character with a number given in hexadecimal digits. -/
def charOfHex? (ds : List Char) : Option Char :=
  if ds.all Number.isHexDigit then
    match Number.read 16 ds with
    | .ok n => if n.isValidChar then some (Char.ofNat n) else none
    | .error _ => none
  else none

def readEscape? : List Char → Option (Char × List Char)
  | 'b' :: cs => some ('\x08', cs)
  | 't' :: cs => some ('\t', cs)
  | 'n' :: cs => some ('\n', cs)
  | 'f' :: cs => some ('\x0c', cs)
  | 'r' :: cs => some ('\r', cs)
  | '"' :: cs => some ('"', cs)
  | '\\' :: cs => some ('\\', cs)
  | 'u' :: cs =>
    if cs.length < 4 then none else (charOfHex? (cs.take 4)).map (·, cs.drop 4)
  | 'U' :: cs =>
    if cs.length < 8 then none else (charOfHex? (cs.take 8)).map (·, cs.drop 8)
  | _ => none

/-- Reads the rest of a string of one line after its opening quote. -/
def readBasic? : Nat → List Char → Option (List Char × List Char)
  | 0, _ => none
  | fuel + 1, cs =>
    match cs with
    | '"' :: rest => some ([], rest)
    | '\\' :: rest =>
      match readEscape? rest with
      | none => none
      | some (c, rest) => (readBasic? fuel rest).map fun (s, rest) => (c :: s, rest)
    | c :: rest =>
      if isQuotedChar c then (readBasic? fuel rest).map fun (s, rest) => (c :: s, rest) else none
    | [] => none

/-- Reads the rest of a literal string of one line after its opening quote. -/
def readLiteral? (cs : List Char) : Option (List Char × List Char) :=
  let s := cs.takeWhile fun c => c ≠ '\'' && isQuotedChar c
  match cs.drop s.length with
  | '\'' :: rest => some (s, rest)
  | _ => none

/-- Reads the quotes that end a string of several lines: three, or up to five of which the first
ones belong to the string. -/
def closeQuotes? (quote : Char) (cs : List Char) : Option (List Char × List Char) :=
  let run := (cs.takeWhile (· = quote)).length
  if run < 3 then none
  else
    let own := min (run - 3) 2
    some (List.replicate own quote, cs.drop (own + 3))

/-- Skips the line ends and blanks after a backslash at the end of a line; none if it does not
stand at the end of a line. -/
def skipFold? (cs : List Char) : Option (List Char) :=
  match newline? (skipBlank cs) with
  | none => none
  | some rest => some (skipFolded rest.length rest)
where
  skipFolded : Nat → List Char → List Char
    | 0, cs => cs
    | fuel + 1, cs =>
      match newline? (skipBlank cs) with
      | some rest => skipFolded fuel rest
      | none => skipBlank cs

/-- Reads the rest of a string of several lines. -/
def readMultiBasic? : Nat → List Char → Option (List Char × List Char)
  | 0, _ => none
  | fuel + 1, cs =>
    match closeQuotes? '"' cs with
    | some closed => some closed
    | none =>
      match newline? cs with
      | some rest => (readMultiBasic? fuel rest).map fun (s, rest) => ('\n' :: s, rest)
      | none =>
        match cs with
        | '\\' :: rest =>
          match skipFold? rest with
          | some rest => readMultiBasic? fuel rest
          | none =>
            match readEscape? rest with
            | none => none
            | some (c, rest) => (readMultiBasic? fuel rest).map fun (s, rest) => (c :: s, rest)
        | c :: rest =>
          if isQuotedChar c then
            (readMultiBasic? fuel rest).map fun (s, rest) => (c :: s, rest)
          else none
        | [] => none

/-- Reads the rest of a literal string of several lines. -/
def readMultiLiteral? : Nat → List Char → Option (List Char × List Char)
  | 0, _ => none
  | fuel + 1, cs =>
    match closeQuotes? '\'' cs with
    | some closed => some closed
    | none =>
      match newline? cs with
      | some rest => (readMultiLiteral? fuel rest).map fun (s, rest) => ('\n' :: s, rest)
      | none =>
        match cs with
        | c :: rest =>
          if isQuotedChar c then
            (readMultiLiteral? fuel rest).map fun (s, rest) => (c :: s, rest)
          else none
        | [] => none

/-- A text without a line end at its front. -/
def dropNewline (cs : List Char) : List Char := (newline? cs).getD cs

/-- Reads a string of any form. -/
def readString? : List Char → Option (List Char × List Char)
  | '"' :: '"' :: '"' :: cs => readMultiBasic? (cs.length + 1) (dropNewline cs)
  | '\'' :: '\'' :: '\'' :: cs => readMultiLiteral? (cs.length + 1) (dropNewline cs)
  | '"' :: cs => readBasic? (cs.length + 1) cs
  | '\'' :: cs => readLiteral? cs
  | _ => none

/-- Reads one part of a key. -/
def readSimpleKey? : List Char → Option (String × List Char)
  | '"' :: cs => (readBasic? (cs.length + 1) cs).map fun (s, rest) => (.ofList s, rest)
  | '\'' :: cs => (readLiteral? cs).map fun (s, rest) => (.ofList s, rest)
  | cs =>
    let key := cs.takeWhile isBareChar
    if key.isEmpty then none else some (.ofList key, cs.drop key.length)

/-- Reads a key and the blanks around it; its parts stand between dots. -/
def readKey? : Nat → List Char → Option (List String × List Char)
  | 0, _ => none
  | fuel + 1, cs =>
    match readSimpleKey? (skipBlank cs) with
    | none => none
    | some (part, rest) =>
      match skipBlank rest with
      | '.' :: rest => (readKey? fuel rest).map fun (parts, rest) => (part :: parts, rest)
      | rest => some ([part], rest)

/-- The longest key that is read. -/
def maxKeyParts : Nat := 79

/-- The digits of a number in which single underscores stand between digits; none if they do not
have this form. -/
def plainDigits? (isDigit : Char → Bool) : List Char → Option (List Char)
  | [] => none
  | [d] => if isDigit d then some [d] else none
  | d :: '_' :: rest => if isDigit d then (plainDigits? isDigit rest).map (d :: ·) else none
  | d :: rest => if isDigit d then (plainDigits? isDigit rest).map (d :: ·) else none

/-- The sign of a number and the text after it. -/
def readSign : List Char → Bool × List Char
  | '-' :: cs => (true, cs)
  | '+' :: cs => (false, cs)
  | cs => (false, cs)

/-- The value of digits in a radix. -/
def radixValue (radix : Nat) (ds : List Char) : Nat :=
  ds.foldl (fun n c => n * radix + (Number.digitValue? radix c).getD 0) 0

/-- The digits of a whole number without sign; a leading zero stands alone. -/
def wholeDigits? (cs : List Char) : Option (List Char) :=
  match plainDigits? Char.isDigit cs with
  | some ('0' :: _ :: _) => none
  | other => other

/-- A whole number within 64 bits. -/
def integerOf? (negative : Bool) (n : Nat) : Option Value :=
  let i : Int := if negative then -n else n
  if -2 ^ 63 ≤ i ∧ i < 2 ^ 63 then some (.integer i) else none

/-- The whole number that a word stands for. -/
def integer? : List Char → Option Value
  | '0' :: 'x' :: cs => (plainDigits? Number.isHexDigit cs).bind fun ds =>
      integerOf? false (radixValue 16 ds)
  | '0' :: 'o' :: cs => (plainDigits? (fun c => '0' ≤ c && c ≤ '7') cs).bind fun ds =>
      integerOf? false (radixValue 8 ds)
  | '0' :: 'b' :: cs => (plainDigits? (fun c => c = '0' || c = '1') cs).bind fun ds =>
      integerOf? false (radixValue 2 ds)
  | cs =>
    let (negative, cs) := readSign cs
    (wholeDigits? cs).bind fun ds => integerOf? negative (radixValue 10 ds)

/-- Whether digits with an exponent are past the largest finite floating-point number: that is, at
least `2 ^ 1024 - 2 ^ 970`. -/
def isHuge (digits : List Char) (exponent : Int) : Bool :=
  let n := radixValue 10 digits
  if n = 0 then false
  else if (Nat.toDigits 10 n).length + exponent > 310 then true
  else if (Nat.toDigits 10 n).length + exponent < 300 then false
  else if exponent < 0 then n ≥ (2 ^ 1024 - 2 ^ 970) * 10 ^ (-exponent).toNat
  else n * 10 ^ exponent.toNat ≥ 2 ^ 1024 - 2 ^ 970

/-- The exponent of a number written after `e`. -/
def exponent? (cs : List Char) : Option Int :=
  let (negative, cs) := readSign cs
  (plainDigits? Char.isDigit cs).map fun ds =>
    let n : Int := radixValue 10 ds
    if negative then -n else n

/-- The parts of a text before and after the first of two letters. -/
def cutAtLetter (a b : Char) (cs : List Char) : List Char × Option (List Char) :=
  let before := cs.takeWhile fun c => c ≠ a && c ≠ b
  match cs.drop before.length with
  | [] => (before, none)
  | _ :: after => (before, some after)

/-- The floating-point number that a word stands for. -/
def float? (word : List Char) : Option Value :=
  let (negative, cs) := readSign word
  if cs = ['i', 'n', 'f'] || cs = ['n', 'a', 'n'] then some (.float (.ofList word))
  else do
    let (mantissa, exponentText) := cutAtLetter 'e' 'E' cs
    let (wholeText, fractionText) := cutAtLetter '.' '.' mantissa
    if exponentText.isNone && fractionText.isNone then none
    let whole ← wholeDigits? wholeText
    let fraction ← match fractionText with
      | none => some []
      | some ds => plainDigits? Char.isDigit ds
    let exponent ← match exponentText with
      | none => some 0
      | some ds => exponent? ds
    if !negative && isHuge (whole ++ fraction) (exponent - fraction.length) then none
    else some (.float (.ofList word))

/-- The value of a word that is all digits, at least `lo` and at most `hi`. -/
def numberWithin? (lo hi : Nat) (ds : List Char) : Option Nat :=
  if !ds.isEmpty && ds.all Char.isDigit then
    let n := radixValue 10 ds
    if lo ≤ n && n ≤ hi then some n else none
  else none

def isDate : List Char → Bool
  | [a, b, c, d, '-', e, f, '-', g, h] =>
    match numberWithin? 0 9999 [a, b, c, d], numberWithin? 1 12 [e, f], numberWithin? 1 31 [g, h] with
    | some year, some month, some day => day ≤ Calendar.daysInMonth year month
    | _, _, _ => false
  | _ => false

/-- The text after a time of day at the front of a word; none if there is none. -/
def afterTime? : List Char → Option (List Char)
  | a :: b :: ':' :: c :: d :: ':' :: e :: f :: rest => do
    let _ ← numberWithin? 0 23 [a, b]
    let _ ← numberWithin? 0 59 [c, d]
    let _ ← numberWithin? 0 60 [e, f]
    match rest with
    | '.' :: fraction =>
      let ds := fraction.takeWhile Char.isDigit
      if ds.isEmpty then none else some (fraction.drop ds.length)
    | rest => some rest
  | _ => none

/-- Whether a word is an offset from zone zero. -/
def isOffset : List Char → Bool
  | ['Z'] | ['z'] => true
  | [sign, a, b, ':', c, d] =>
    (sign = '+' || sign = '-') && (numberWithin? 0 23 [a, b]).isSome &&
      (numberWithin? 0 59 [c, d]).isSome
  | _ => false

/-- The date or time that a word stands for. -/
def datetime? (word : List Char) : Option Value :=
  let valid : Bool :=
    if isDate (word.take 10) then
      match word.drop 10 with
      | [] => true
      | delimiter :: time =>
        (delimiter = 'T' || delimiter = 't' || delimiter = ' ') &&
          match afterTime? time with
          | some rest => rest.isEmpty || isOffset rest
          | none => false
    else decide (afterTime? word = some [])
  if valid then some (.datetime (.ofList word)) else none

/-- A character of a word that is a number, a date or a truth value. -/
def isWordChar (c : Char) : Bool :=
  c.isAlphanum || c = '_' || c = '-' || c = '+' || c = '.' || c = ':'

/-- Reads a number, a date or a truth value. -/
def readWord? (cs : List Char) : Option (Value × List Char) :=
  let word := cs.takeWhile isWordChar
  let rest := cs.drop word.length
  -- a date and a time of day may stand apart
  let (word, rest) := match rest with
    | ' ' :: a :: b :: ':' :: more =>
      if isDate word && a.isDigit && b.isDigit then
        let time := (a :: b :: ':' :: more).takeWhile isWordChar
        (word ++ ' ' :: time, (a :: b :: ':' :: more).drop time.length)
      else (word, rest)
    | _ => (word, rest)
  let value :=
    if word = "true".toList then some (.boolean true)
    else if word = "false".toList then some (.boolean false)
    else (datetime? word <|> float? word) <|> integer? word
  value.map (·, rest)

mutual

/-- Reads a value; `depth` more levels may be opened. -/
def readValue? : (fuel depth : Nat) → List Char → Option (Value × List Char)
  | 0, _, _ => none
  | fuel + 1, depth, cs =>
    match cs with
    | '"' :: _ | '\'' :: _ => (readString? cs).map fun (s, rest) => (.string (.ofList s), rest)
    | '[' :: rest =>
      if depth = 0 then none
      else (readItems? fuel (depth - 1) rest).map fun (items, rest) => (.array items, rest)
    | '\x7b' :: rest =>
      if depth = 0 then none
      else
        match skipBlank rest with
        | '\x7d' :: rest => some (.table [], rest)
        | rest => (readPairs? fuel (depth - 1) [] rest).map fun (es, rest) =>
            (.table (entriesToValues es), rest)
    | cs => readWord? cs

/-- Reads the rest of an array after its opening bracket or a comma. -/
def readItems? : (fuel depth : Nat) → List Char → Option (List Value × List Char)
  | 0, _, _ => none
  | fuel + 1, depth, cs =>
    match skipSpace cs.length cs with
    | ']' :: rest => some ([], rest)
    | cs =>
      match readValue? fuel depth cs with
      | none => none
      | some (v, rest) =>
        match skipSpace rest.length rest with
        | ']' :: rest => some ([v], rest)
        | ',' :: rest => (readItems? fuel depth rest).map fun (vs, rest) => (v :: vs, rest)
        | _ => none

/-- Reads the rest of a table in braces, at least one more pair. -/
def readPairs? : (fuel depth : Nat) → Entries → List Char → Option (Entries × List Char)
  | 0, _, _, _ => none
  | fuel + 1, depth, es, cs =>
    match readKey? maxKeyParts cs with
    | some (key, '=' :: rest) =>
      match readValue? fuel depth (skipBlank rest) with
      | none => none
      | some (v, rest) =>
        match es.put key v with
        | none => none
        | some es =>
          match skipBlank rest with
          | '\x7d' :: rest => some (es, rest)
          | ',' :: rest => readPairs? fuel depth es rest
          | _ => none
    | _ => none

end

/-- The levels of nesting that a value may have. -/
def maxDepth : Nat := 79

/-- A document under construction, and the path of the table that keys are added to. -/
structure Document where
  root : Entries
  path : List String

/-- Takes in one line that holds more than blanks and a comment. -/
def Document.readLine? (d : Document) (cs : List Char) : Option (Document × List Char) :=
  match cs with
  | '[' :: '[' :: rest =>
    match readKey? maxKeyParts rest with
    | some (path, ']' :: ']' :: rest) => (d.root.openArrayTable path).map fun root =>
        (⟨root, path⟩, rest)
    | _ => none
  | '[' :: rest =>
    match readKey? maxKeyParts rest with
    | some (path, ']' :: rest) => (d.root.openTable path).map fun root => (⟨root, path⟩, rest)
    | _ => none
  | cs =>
    match readKey? maxKeyParts cs with
    | some (key, '=' :: rest) =>
      match readValue? (2 * cs.length + 2) maxDepth (skipBlank rest) with
      | none => none
      | some (v, rest) => (d.root.modifyAt (·.put key v) d.path).map fun root =>
          (⟨root, d.path⟩, rest)
    | _ => none

def Document.readLines? : Nat → Document → List Char → Option Document
  | 0, _, _ => none
  | fuel + 1, d, cs =>
    match skipBlank cs with
    | [] => some d
    | '#' :: rest => (lineEnd? ('#' :: rest)).bind (readLines? fuel d)
    | '\n' :: rest => readLines? fuel d rest
    | '\r' :: rest => (newline? ('\r' :: rest)).bind (readLines? fuel d)
    | cs =>
      match d.readLine? cs with
      | none => none
      | some (d, rest) => (lineEnd? rest).bind (readLines? fuel d)

/-- Reads a whole text; a byte order mark at its front does not count. -/
def parse? (text : String) : Option (List (String × Value)) :=
  let cs := match text.toList with
    | '\uFEFF' :: cs => cs
    | cs => cs
  (Document.readLines? (cs.length + 1) ⟨[], []⟩ cs).map fun d => entriesToValues d.root

end HealthAgent.Toml
