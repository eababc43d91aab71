import HealthAgent.Number.Digits
import HealthAgent.Text.Cut
/-!
# Network addresses

An IPv4 address in a host name has up to four parts, each decimal, octal after a leading `0`, or
hexadecimal after `0x`; the last part fills the bytes that are left. An IPv6 address has eight groups
of up to four hexadecimal digits; one run of zero groups may be left out, and the last two groups
may be written as a dotted IPv4 address.

Results:
* `Ipv4.isLoopback_iff`: the loopback addresses are those whose first byte is 127.
-/
namespace HealthAgent

structure Ipv4 where
  bits : UInt32
  deriving DecidableEq, Repr

structure Ipv6 where
  groups : Vector UInt16 8
  deriving DecidableEq

namespace Ipv4

/-- The byte at a place from the left, for places below 4. -/
def byte (a : Ipv4) (place : Nat) : Nat := a.bits.toNat / 256 ^ (3 - place) % 256

def text (a : Ipv4) : String :=
  s!"{a.byte 0}.{a.byte 1}.{a.byte 2}.{a.byte 3}"

def isLoopback (a : Ipv4) : Bool := a.byte 0 = 127

/-- The value of digits of a radix; none if another character is among them. -/
def value? (radix : Nat) (cs : List Char) : Option Nat :=
  cs.foldlM (fun acc c => (Number.digitValue? radix c).map (radix * acc + ·)) 0

/-- The value of a part of an address in a host name. -/
def part? : List Char → Option Nat
  | [] => none
  | '0' :: 'x' :: digits => value? 16 digits
  | '0' :: 'X' :: digits => value? 16 digits
  | '0' :: d :: digits => value? 8 (d :: digits)
  | digits => value? 10 digits

/-- The parts of a host name; an empty last part after others is none. -/
def parts (cs : List Char) : List (List Char) :=
  let all := Text.fields '.' cs
  if all.getLast? = some [] && 1 < all.length then all.dropLast else all

/-- Whether a host name ends in a number, so that it can only be an address. -/
def isMeant (cs : List Char) : Bool :=
  match (parts cs).getLast? with
  | some last => (!last.isEmpty && last.all Char.isDigit) || (part? last).isSome
  | none => false

/-- Reads the address that a host name stands for. -/
def ofHostName? (cs : List Char) : Option Ipv4 := do
  let values ← (parts cs).mapM part?
  let last ← values.getLast?
  let high := values.dropLast
  if 4 < values.length || high.any (255 < ·) || 256 ^ (4 - high.length) ≤ last then none
  else
    let bits := high.zipIdx.foldl (fun bits (n, i) => bits + n * 256 ^ (3 - i)) last
    return ⟨bits.toUInt32⟩

/-- The value of a byte in decimal digits without a needless zero. -/
def dottedByte? (cs : List Char) : Option Nat :=
  match cs with
  | [] => none
  | '0' :: _ :: _ => none
  | digits => (value? 10 digits).filter (· < 256)

/-- The bytes of a dotted text of four decimal numbers. -/
def dottedBytes? (cs : List Char) : Option (List Nat) :=
  ((Text.fields '.' cs).mapM dottedByte?).filter (·.length = 4)

/-- Reads a dotted text of four decimal numbers. -/
def ofDotted? (cs : List Char) : Option Ipv4 :=
  (dottedBytes? cs).map fun bytes => ⟨(bytes.foldl (fun acc b => 256 * acc + b) 0).toUInt32⟩

theorem isLoopback_iff (a : Ipv4) : a.isLoopback = true ↔ a.bits.toNat / 2 ^ 24 = 127 := by
  have h := a.bits.toNat_lt
  rw [isLoopback, decide_eq_true_iff, byte]
  omega

end Ipv4

namespace Ipv6

/-- The value of one group of digits. -/
def group? (cs : List Char) : Option Nat :=
  if cs.isEmpty || 4 < cs.length then none else Ipv4.value? 16 cs

/-- The groups of a text without a gap. The last ones may be written dotted if `dotted` allows. -/
def groups? (dotted : Bool) (cs : List Char) : Option (List Nat) :=
  if cs.isEmpty then some []
  else
    let fields := Text.fields ':' cs
    match dotted, fields.getLast?.bind Ipv4.dottedBytes? with
    | true, some [a, b, c, d] => do
      return (← fields.dropLast.mapM group?) ++ [256 * a + b, 256 * c + d]
    | _, _ => fields.mapM group?

/-- The parts before and after the first `::`, if there is one. -/
def cutAtGap : List Char → Option (List Char × List Char)
  | ':' :: ':' :: rest => some ([], rest)
  | c :: rest => (cutAtGap rest).map fun (before, after) => (c :: before, after)
  | [] => none

def parse? (cs : List Char) : Option Ipv6 := do
  let all ← match cutAtGap cs with
    | none => groups? true cs
    | some (before, after) => do
      let before ← groups? false before
      let after ← groups? true after
      if before.length + after.length ≤ 7 then
        some (before ++ List.replicate (8 - before.length - after.length) 0 ++ after)
      else none
  let groups := (all.map Nat.toUInt16).toArray
  if h : groups.size = 8 then some ⟨⟨groups, h⟩⟩ else none

/-- The start and length of the first longest run of zeros. -/
def longestZeroRun (groups : List UInt16) : Nat × Nat :=
  (List.range groups.length).foldl (fun best start =>
    let length := ((groups.drop start).takeWhile (· = 0)).length
    if best.2 < length then (start, length) else best) (0, 0)

/-- Groups with colons between. -/
def joined (groups : List UInt16) : String :=
  String.intercalate ":" (groups.map fun g => Number.hex g.toNat)

def text (a : Ipv6) : String :=
  let groups := a.groups.toList
  let (start, length) := longestZeroRun groups
  if 2 ≤ length then joined (groups.take start) ++ "::" ++ joined (groups.drop (start + length))
  else joined groups

def isLoopback (a : Ipv6) : Bool := a.groups.toList = [0, 0, 0, 0, 0, 0, 0, 1]

end Ipv6
end HealthAgent
