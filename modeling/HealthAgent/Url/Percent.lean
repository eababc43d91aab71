import HealthAgent.Number.Digits
/-!
# Escapes in the components of a URL

A byte that may not stand in a component is written as `%` and two hexadecimal digits. Each
component has its own set of ASCII characters that are escaped; controls and all that is not ASCII
are escaped in every component. An escape that is there already stays as it is.

Results:
* `escape_of_plain`: a text without bytes to escape is written as it is.
-/
namespace HealthAgent.Url

/-- The capital hexadecimal digit of a number below 16. -/
def escapeDigit (n : Nat) : Char :=
  Char.ofNat (if n < 10 then 48 + n else 55 + n)

def escapeByte (b : UInt8) : List Char :=
  ['%', escapeDigit (b.toNat / 16), escapeDigit (b.toNat % 16)]

/-- Whether a character is escaped in a component that escapes the characters of `reserved`. -/
def isEscaped (reserved : List Char) (c : Char) : Bool :=
  c.toNat < 0x20 || 0x7F ≤ c.toNat || reserved.contains c

/-- A text with the escapes of a component. -/
def escape (reserved : List Char) (cs : List Char) : List Char :=
  cs.flatMap fun c =>
    if isEscaped reserved c then (String.singleton c).toUTF8.toList.flatMap escapeByte else [c]

/-- The bytes that a text with escapes stands for. -/
def unescape : List UInt8 → List UInt8
  | 0x25 :: a :: b :: rest =>
    match Number.digitValue? 16 (Char.ofNat a.toNat), Number.digitValue? 16 (Char.ofNat b.toNat) with
    | some x, some y => (16 * x + y).toUInt8 :: unescape rest
    | _, _ => 0x25 :: unescape (a :: b :: rest)
  | b :: rest => b :: unescape rest
  | [] => []
termination_by bytes => bytes.length

def fragmentReserved : List Char := " \"<>\x60".toList

/-- The characters that are escaped in a path of segments. -/
def pathReserved : List Char := fragmentReserved ++ "#?\x7b\x7d".toList

/-- The characters that are escaped in a user name or a password. -/
def credentialsReserved : List Char := pathReserved ++ "/:;=@[\\]^|".toList

def queryReserved : List Char := " \"#<>".toList

/-- The characters that are escaped in a query of a scheme for the web. -/
def webQueryReserved : List Char := '\'' :: queryReserved

theorem escape_of_plain (reserved cs : List Char) (h : ∀ c ∈ cs, isEscaped reserved c = false) :
    escape reserved cs = cs := by
  induction cs with
  | nil => rfl
  | cons c cs ih =>
    have ht := ih fun d hd => h d (List.mem_cons_of_mem c hd)
    rw [escape, List.flatMap_cons, if_neg (by simp [h c List.mem_cons_self])]
    exact congrArg (c :: ·) ht

end HealthAgent.Url
