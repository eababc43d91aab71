import HealthAgent.Dict
/-!
# JSON values

Numbers are whole numbers of 64 bits, signed or unsigned, or binary floating-point numbers held by
their 64 bits. An object is a list of fields; a reader keeps the fields as written, and
`Json.canonical` sorts them by name and keeps the last of two with one name.

Results:
* `canonical_object_sorted`: the names of a canonical object are in ascending order.
-/
namespace HealthAgent

namespace Json

inductive Number where
  | whole (n : Int)
  | float (bits : UInt64)
  deriving DecidableEq, Repr, Inhabited

end Json

inductive Json where
  | null
  | bool (b : Bool)
  | number (n : Json.Number)
  | string (s : String)
  | array (items : List Json)
  | object (fields : List (String × Json))
  deriving Repr, BEq, Inhabited

namespace Json

def ofNat (n : Nat) : Json := .number (.whole n)

/-- A text, or `null` where there is none. -/
def ofOption (s : Option String) : Json := s.elim .null .string

def ofDict (d : Dict Json) : Json := .object d.entries

def ofTexts (d : Dict String) : Json := .object (d.entries.map fun (k, v) => (k, .string v))

def fields? : Json → Option (List (String × Json))
  | .object fs => some fs
  | _ => none

/-- The value of a field of an object; the last one if the name is repeated. -/
def field? (j : Json) (name : String) : Option Json :=
  j.fields?.bind fun fs => (fs.reverse.find? (·.1 = name)).map (·.2)

def text? : Json → Option String
  | .string s => some s
  | _ => none

mutual

/-- The value with every object's fields in ascending order of their names, the last of two fields
with one name kept. -/
def canonical : Json → Json
  | .array items => .array (canonicalItems items)
  | .object fields => .ofDict (canonicalFields fields ∅)
  | other => other

def canonicalItems : List Json → List Json
  | [] => []
  | item :: rest => canonical item :: canonicalItems rest

/-- The fields as a dictionary of canonical values, added to those before them. -/
def canonicalFields : List (String × Json) → Dict Json → Dict Json
  | [], d => d
  | (name, value) :: rest, d => canonicalFields rest (d.insert name (canonical value))

end

theorem canonical_object_sorted (fields : List (String × Json)) :
    ∃ fs, canonical (.object fields) = .object fs ∧ fs.Pairwise (·.1 < ·.1) :=
  ⟨_, by rw [canonical, ofDict], (canonicalFields fields ∅).sorted⟩

end Json
end HealthAgent
