import HealthAgent.Number.Digits
/-!
# The fewest digits that read back

A finite binary number `m · 2 ^ q` is the reading of every decimal number in an interval around it.
Its shortest text takes the fewest digits for which a number of that many digits lies in the
interval, and of those numbers the nearest.

The search looks at the two neighbours of the value on the grid of one digit, of two digits and so
on, in whole-number arithmetic; seventeen digits always suffice.
-/
namespace HealthAgent.Number

/-- The sign, significand and binary exponent of the 64 bits of a finite number. -/
structure Decoded where
  negative : Bool
  significand : Nat
  exponent : Int
  deriving DecidableEq, Repr

/-- Sign, significand and exponent of a finite number; `none` for infinities and NaN. -/
def decode? (bits : UInt64) : Option Decoded :=
  let n := bits.toNat
  let e : Nat := n / 2 ^ 52 % 2048
  let f := n % 2 ^ 52
  let negative := n / 2 ^ 63 = 1
  if e = 2047 then none
  else if e = 0 then some ⟨negative, f, -1074⟩
  else some ⟨negative, f + 2 ^ 52, (e : Int) - 1075⟩

/-- A decimal number `digits · 10 ^ exponent`. -/
structure Decimal where
  digits : Nat
  exponent : Int
  deriving DecidableEq, Repr

/-- `2 ^ q · 10 ^ (-k) · 4` as a fraction, for comparisons in whole numbers. -/
def scale (q k : Int) : Nat × Nat :=
  let num := (if q ≥ 0 then 2 ^ q.toNat else 1) * (if k < 0 then 10 ^ (-k).toNat else 1)
  let den := (if q < 0 then 2 ^ (-q).toNat else 1) * (if k ≥ 0 then 10 ^ k.toNat else 1)
  (num, den)

/-- The nearest point `d · 10 ^ k` to `m · 2 ^ q` among its two neighbours on that grid that lie in
the interval of numbers read as `m · 2 ^ q`. -/
def onGrid? (m : Nat) (q k : Int) : Option Nat :=
  let (num, den) := scale q k
  -- the value and the ends of its interval, in quarters of `den`
  let value := 4 * m * num
  let lower := if m = 2 ^ 52 && q > -1074 then (4 * m - 1) * num else (4 * m - 2) * num
  let upper := (4 * m + 2) * num
  let unit := 4 * den
  let d := value / unit
  let inside (p : Nat) : Bool :=
    let at_ := p * unit
    if m % 2 = 0 then lower ≤ at_ && at_ ≤ upper else lower < at_ && at_ < upper
  match inside d, inside (d + 1) with
  | true, true =>
    let below := value - d * unit
    let above := (d + 1) * unit - value
    if below < above then some d
    else if above < below then some (d + 1)
    else some (if d % 2 = 0 then d else d + 1)
  | true, false => some d
  | false, true => some (d + 1)
  | false, false => none

/-- The number of decimal digits before the point of `m · 2 ^ q`, zero or less below one. -/
def magnitude (m : Nat) (q : Int) : Int :=
  if q ≥ 0 then (Nat.toDigits 10 (m * 2 ^ q.toNat)).length
  else
    let den := 2 ^ (-q).toNat
    if m ≥ den then (Nat.toDigits 10 (m / den)).length
    else 1 - (Nat.toDigits 10 (den / m)).length

/-- Tries the grids `10 ^ k`, `10 ^ (k - 1)`, …, at most `tries` of them. -/
def search (m : Nat) (q : Int) : Nat → Int → Decimal
  | 0, k => ⟨0, k⟩
  | tries + 1, k =>
    match onGrid? m q k with
    | some d => if d = 0 then search m q tries (k - 1) else ⟨d, k⟩
    | none => search m q tries (k - 1)

/-- A decimal number without zeros at the end of its digits. -/
def Decimal.stripZeros : Nat → Decimal → Decimal
  | 0, d => d
  | fuel + 1, d =>
    if d.digits ≠ 0 && d.digits % 10 = 0 then stripZeros fuel ⟨d.digits / 10, d.exponent + 1⟩
    else d

/-- The shortest decimal number that is read as `m · 2 ^ q`, for `m ≠ 0`. -/
def shortest (m : Nat) (q : Int) : Decimal :=
  (search m q 20 (magnitude m q)).stripZeros 20

end HealthAgent.Number
