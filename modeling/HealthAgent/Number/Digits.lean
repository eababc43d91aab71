/-!
# Whole numbers in digits

Numbers of 64 bits are written in a radix up to 16 and read back with at most one leading `+`. A
reader tells an empty field, a wrong character and a number past the limit apart, and of the two
last it reports the one that comes first in the text.
-/
namespace HealthAgent.Number

/-- Powers of numbers are the built-in ones, also beside a library's powers in a monoid. -/
@[default_instance high]
instance (priority := high) instPow {α : Type} [NatPow α] : Pow α Nat := instPowNat

/-- Why a text is not a whole number. -/
inductive DigitsError where
  | empty | invalidDigit | tooLarge
  deriving DecidableEq, Repr

def DigitsError.message : DigitsError → String
  | .empty => "cannot parse integer from empty string"
  | .invalidDigit => "invalid digit found in string"
  | .tooLarge => "number too large to fit in target type"

/-- The value of a digit, of either letter case, in a radix up to 16. -/
def digitValue? (radix : Nat) (c : Char) : Option Nat :=
  let n := c.toNat
  let v? :=
    if 48 ≤ n && n ≤ 57 then some (n - 48)
    else if 97 ≤ n && n ≤ 102 then some (n - 87)
    else if 65 ≤ n && n ≤ 70 then some (n - 55)
    else none
  v?.filter (· < radix)

/-- Whether a character is a hexadecimal digit of either case. -/
def isHexDigit (c : Char) : Bool :=
  (digitValue? 16 c).isSome

/-- Reads the remaining digits of a number whose digits so far are worth `acc`. -/
def readDigits (radix : Nat) : Nat → List Char → Except DigitsError Nat
  | acc, [] => .ok acc
  | acc, c :: cs =>
    match digitValue? radix c with
    | none => .error .invalidDigit
    | some d =>
      if acc * radix + d < 2 ^ 64 then readDigits radix (acc * radix + d) cs
      else .error .tooLarge

/-- Reads a whole number below `2 ^ 64`. -/
def read (radix : Nat) : List Char → Except DigitsError Nat
  | [] => .error .empty
  | ['+'] => .error .invalidDigit
  | '+' :: c :: cs => readDigits radix 0 (c :: cs)
  | c :: cs => readDigits radix 0 (c :: cs)

/-- Reads a decimal number below `2 ^ 64`. -/
def readDecimal (s : String) : Except DigitsError Nat :=
  read 10 s.toList

/-- The small hexadecimal digits of a number. -/
def hex (n : Nat) : String :=
  .ofList (Nat.toDigits 16 n)

/-- A number in at least `width` small hexadecimal digits. -/
def hexPadded (width n : Nat) : String :=
  let ds := Nat.toDigits 16 n
  .ofList (List.replicate (width - ds.length) '0' ++ ds)

end HealthAgent.Number
