/-!
# Texts from bytes

The output of a program is read as UTF-8. Where the bytes are no UTF-8, each longest beginning of a
character that is not completed counts as one replacement character, and so does each byte that
begins none.
-/
namespace HealthAgent.Text

/-- The character for bytes that are no text. -/
def replacement : Char := '\uFFFD'

/-- Whether a byte continues a character. -/
def isContinuation (b : UInt8) : Bool := 0x80 ≤ b && b ≤ 0xBF

/-- The number of bytes that follow a first byte, and the bounds of the next of them; none if no
character begins with it. -/
def leadByte? (b : UInt8) : Option (Nat × UInt8 × UInt8) :=
  if b < 0x80 then some (0, 0x80, 0xBF)
  else if 0xC2 ≤ b && b ≤ 0xDF then some (1, 0x80, 0xBF)
  else if b = 0xE0 then some (2, 0xA0, 0xBF)
  else if b = 0xED then some (2, 0x80, 0x9F)
  else if 0xE1 ≤ b && b ≤ 0xEF then some (2, 0x80, 0xBF)
  else if b = 0xF0 then some (3, 0x90, 0xBF)
  else if b = 0xF4 then some (3, 0x80, 0x8F)
  else if 0xF1 ≤ b && b ≤ 0xF3 then some (3, 0x80, 0xBF)
  else none

/-- The bytes of a character after its first, as many as are there: their number, and the
character's number so far. The last component tells whether none is missing. -/
def followBytes : Nat → UInt8 → UInt8 → Nat → List UInt8 → Nat × Nat × Bool
  | 0, _, _, value, _ => (0, value, true)
  | need + 1, lo, hi, value, b :: rest =>
    if lo ≤ b && b ≤ hi then
      let (used, value, complete) :=
        followBytes need 0x80 0xBF (value * 64 + (b.toNat - 0x80)) rest
      (used + 1, value, complete)
    else (0, value, false)
  | _ + 1, _, _, value, [] => (0, value, false)

/-- The part of a character's number that its first byte holds. -/
def leadBits (b : UInt8) : Nat → Nat
  | 0 => b.toNat
  | 1 => b.toNat - 0xC0
  | 2 => b.toNat - 0xE0
  | _ => b.toNat - 0xF0

/-- The text of bytes, of which at most `fuel` begin a character. -/
def decodeFrom : Nat → List UInt8 → List Char
  | 0, _ => []
  | _ + 1, [] => []
  | fuel + 1, b :: rest =>
    match leadByte? b with
    | none => replacement :: decodeFrom fuel rest
    | some (need, lo, hi) =>
      let (used, value, complete) := followBytes need lo hi (leadBits b need) rest
      (if complete then Char.ofNat value else replacement) :: decodeFrom fuel (rest.drop used)

/-- The text of bytes, with replacement characters where they are no text. -/
def decodeLossy (bytes : List UInt8) : String :=
  .ofList (decodeFrom bytes.length bytes)

end HealthAgent.Text
