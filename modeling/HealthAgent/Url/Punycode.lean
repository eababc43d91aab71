import HealthAgent.Number.Digits
import HealthAgent.Text.Cut
/-!
# Punycode

A label of a domain name that is not ASCII is written with its ASCII characters first, then, after a
hyphen, the places and values of the others: in the order of their values, each as the number of
steps of the decoder since the last one, in digits of a base that adapts to the steps made so far.

Results:
* `threshold_bounds`: a digit's threshold lies between 1 and 26, so that numbers end.
-/
namespace HealthAgent.Punycode

/-- The digit for a value below 36. -/
def digit (d : Nat) : Char := Char.ofNat (if d < 26 then 97 + d else 22 + d)

/-- The value of a digit of either case. -/
def digitValue? (c : Char) : Option Nat :=
  if c.isLower then some (c.toNat - 97)
  else if c.isUpper then some (c.toNat - 65)
  else if c.isDigit then some (c.toNat - 22)
  else none

/-- The value below which a digit at position `k` ends its number. -/
def threshold (bias k : Nat) : Nat := min 26 (max 1 (k - bias))

theorem threshold_bounds (bias k : Nat) : 1 ≤ threshold bias k ∧ threshold bias k ≤ 26 := by
  unfold threshold
  omega

/-- Divides a step by 35 until it is at most 455; also tells the position gained. -/
def damp (delta k : Nat) : Nat × Nat :=
  if 455 < delta then damp (delta / 35) (k + 36) else (delta, k)
termination_by delta

/-- The bias after a step, where `count` characters are in place. -/
def adapt (delta count : Nat) (first : Bool) : Nat :=
  let delta := if first then delta / 700 else delta / 2
  let (delta, k) := damp (delta + delta / count) 0
  k + 36 * delta / (delta + 38)

/-- A number in digits, from position `k` on. -/
def encodeNumber (bias k n : Nat) : List Char :=
  let t := threshold bias k
  if n < t then [digit n]
  else digit (t + (n - t) % (36 - t)) :: encodeNumber bias (k + 36) ((n - t) / (36 - t))
termination_by n
decreasing_by
  have h := threshold_bounds bias k
  exact Nat.lt_of_le_of_lt (Nat.div_le_self _ _) (by omega)

/-- What is known while a label is written. -/
structure Progress where
  delta : Nat
  bias : Nat
  /-- The number of characters in place. -/
  placed : Nat
  /-- The digits so far. -/
  out : List Char

/-- Goes over one character of the label while characters of value `m` are placed. -/
def Progress.visit (basic m : Nat) (p : Progress) (c : Char) : Progress :=
  if c.toNat < m then { p with delta := p.delta + 1 }
  else if c.toNat = m then
    { delta := 0
      bias := adapt p.delta (p.placed + 1) (p.placed = basic)
      placed := p.placed + 1
      out := p.out ++ encodeNumber p.bias 36 p.delta }
  else p

/-- Places the characters of the values `ms`, in rising order, from value `n` on. -/
def placeAll (label : List Char) (basic : Nat) : List Nat → Nat → Progress → Progress
  | [], _, p => p
  | m :: ms, n, p =>
    let p := { p with delta := p.delta + (m - n) * (p.placed + 1) }
    let p := label.foldl (Progress.visit basic m) p
    placeAll label basic ms (m + 1) { p with delta := p.delta + 1 }

/-- The written form of a label. -/
def encode (label : List Char) : List Char :=
  let basic := label.filter (·.toNat < 128)
  let values := (label.filterMap fun c => if c.toNat < 128 then none else some c.toNat).mergeSort
  let p := placeAll label basic.length values.eraseReps 128 ⟨0, 72, basic.length, []⟩
  if basic.isEmpty then p.out else basic ++ '-' :: p.out

/-- The numbers of a decoder are below this limit. -/
def numberLimit : Nat := 2 ^ 32

/-- Reads a number and adds it to `sum`, where `weight` is that of the next digit; also gives the
digits after it. -/
def decodeNumber (bias : Nat) : Nat → Nat → Nat → List Char → Option (Nat × List Char)
  | _, _, _, [] => none
  | k, weight, sum, c :: rest => do
    let d ← digitValue? c
    let sum := sum + d * weight
    let t := threshold bias k
    let next := weight * (36 - t)
    if numberLimit ≤ sum then none
    else if d < t then return (sum, rest)
    else if numberLimit ≤ next then none
    else decodeNumber bias (k + 36) next sum rest

/-- Places the characters that `digits` tell into `out`, at most `fuel` of them, from value `n` and
place `i` on. -/
def decodeFrom (fuel n i bias : Nat) (out : List Char) (digits : List Char) : Option (List Char) :=
  match fuel, digits with
  | _, [] => some out
  | 0, _ => none
  | fuel + 1, digits => do
    let (place, rest) ← decodeNumber bias 36 1 i digits
    let count := out.length + 1
    let value := n + place / count
    if value.isValidChar then
      decodeFrom fuel value (place % count + 1) (adapt (place - i) count (i = 0))
        (out.insertIdx (place % count) (Char.ofNat value)) rest
    else none

/-- Reads the written form of a label. -/
def decode? (cs : List Char) : Option (List Char) :=
  let (basic, digits) := match Text.cutAtLast ['-'] cs with
    | some (c :: before, after) => (c :: before, after)
    | _ => ([], cs)
  if basic.all (·.toNat < 128) then
    decodeFrom digits.length 128 0 72 basic digits
  else none

end HealthAgent.Punycode
