import HealthAgent.Json.Basic
import HealthAgent.Number.Digits
/-!
# Reading typed values from JSON values

A structure is read from an object, or from an array that holds its fields in order and nothing
else. Of an object, fields that the structure does not have are ignored, and a field of it that is
repeated is refused. A plain name of an enumeration is read from a string, or from an object whose
only field has that name and the value `null`.
-/
namespace HealthAgent.Json

/-- The values of the fields `names`, in this order; `none` inside marks a missing field. -/
def fieldValues? (names : List String) : Json → Option (List (Option Json))
  | .object fields =>
    names.mapM fun name =>
      match fields.filter (·.1 = name) with
      | [] => some none
      | [(_, value)] => some (some value)
      | _ => none
  | .array items => if items.length = names.length then some (items.map some) else none
  | _ => none

/-- The name that a value stands for in an enumeration. -/
def nameOf? : Json → Option String
  | .string s => some s
  | .object [(name, .null)] => some name
  | _ => none

/-- A whole number below `2 ^ 32`. -/
def word32? : Json → Option UInt32
  | .number (.whole n) => if 0 ≤ n ∧ n < 2 ^ 32 then some n.toNat.toUInt32 else none
  | _ => none

/-- A whole number below `2 ^ 64`. -/
def word64? : Json → Option UInt64
  | .number (.whole n) => if 0 ≤ n ∧ n < 2 ^ 64 then some n.toNat.toUInt64 else none
  | _ => none

def bool? : Json → Option Bool
  | .bool b => some b
  | _ => none

/-- The texts of an object whose fields all hold strings; the last of two fields with one name. -/
def texts? : Json → Option (Dict String)
  | .object fields =>
    (fields.mapM fun (f : String × Json) => (text? f.2).map (f.1, ·)).map Dict.ofList
  | _ => none

end HealthAgent.Json
