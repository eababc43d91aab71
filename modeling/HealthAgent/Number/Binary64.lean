import HealthAgent.Number.Digits
import HealthAgent.Text.Blank
/-!
# Reading floating-point numbers

A decimal text is read as the nearest 64-bit floating-point number, of two equally near ones the
even one; a number past the largest finite one is infinite. Words for infinity and for a value that
is no number are accepted in any letter case, and so are a sign, a point without digits on one of
its sides, and an exponent.
-/
namespace HealthAgent.Number
open Text

/-- The bits of positive infinity. -/
def infinity : Nat := 0x7FF * 2 ^ 52

/-- The bits of a value that is no number. -/
def notANumber : UInt64 := 0x7FF8000000000000

/-- `num / den` rounded to a whole number, of two equally near ones to the even one. -/
def roundDiv (num den : Nat) : Nat :=
  let q := num / den
  let twice := 2 * (num % den)
  if twice < den then q
  else if den < twice then q + 1
  else if q % 2 = 0 then q else q + 1

/-- `num · 2 ^ shift / den` rounded to a whole number. -/
def roundScaled (num den : Nat) (shift : Int) : Nat :=
  if shift ≥ 0 then roundDiv (num * 2 ^ shift.toNat) den
  else roundDiv num (den * 2 ^ (-shift).toNat)

/-- The largest `e` with `2 ^ e ≤ num / den`. -/
def floorLog (num den : Nat) : Int :=
  let e : Int := (Nat.log2 num : Int) - Nat.log2 den
  let reached := if e ≥ 0 then den * 2 ^ e.toNat ≤ num else den ≤ num * 2 ^ (-e).toNat
  if reached then e else e - 1

/-- The bits of the number nearest to `num / den`. -/
def nearest (num den : Nat) : Nat :=
  if num = 0 then 0
  else
    let q := max (floorLog num den - 52) (-1074)
    let bits := (q + 1074).toNat * 2 ^ 52 + roundScaled num den (-q)
    min bits infinity

/-- The bits of the number nearest to `digits · 10 ^ exponent`. -/
def nearestDecimal (digits : Nat) (exponent : Int) : Nat :=
  let size := (Nat.toDigits 10 digits).length + exponent
  if digits = 0 then 0
  else if size > 310 then infinity
  else if size < -330 then 0
  else if exponent ≥ 0 then nearest (digits * 10 ^ exponent.toNat) 1
  else nearest digits (10 ^ (-exponent).toNat)

def decimalValue (ds : List Char) : Nat :=
  ds.foldl (fun n c => n * 10 + (c.toNat - 48)) 0

/-- The exponent at the end of a number; 0 for an empty text. -/
def exponentOf? : List Char → Option Int
  | [] => some 0
  | e :: cs =>
    if e = 'e' ∨ e = 'E' then
      let (negative, ds) := match cs with
        | '-' :: r => (true, r)
        | '+' :: r => (false, r)
        | r => (false, r)
      if ds.isEmpty || !ds.all Char.isDigit then none
      else
        let n : Int := decimalValue ds
        some (if negative then -n else n)
    else none

/-- The bits of a number without sign. -/
def magnitude? (cs : List Char) : Option Nat :=
  let word := lower cs
  if word = "inf".toList || word = "infinity".toList then some infinity
  else if word = "nan".toList then some notANumber.toNat
  else
    let whole := cs.takeWhile Char.isDigit
    let rest := cs.drop whole.length
    let (fraction, rest) := match rest with
      | '.' :: r => (r.takeWhile Char.isDigit, r.dropWhile Char.isDigit)
      | r => ([], r)
    if whole.isEmpty && fraction.isEmpty then none
    else (exponentOf? rest).map fun e =>
      nearestDecimal (decimalValue (whole ++ fraction)) (e - fraction.length)

def parseFloat? (cs : List Char) : Option Float :=
  match cs with
  | '-' :: r => (magnitude? r).map fun n => Float.ofBits (n + 2 ^ 63).toUInt64
  | '+' :: r => (magnitude? r).map fun n => Float.ofBits n.toUInt64
  | r => (magnitude? r).map fun n => Float.ofBits n.toUInt64

end HealthAgent.Number
