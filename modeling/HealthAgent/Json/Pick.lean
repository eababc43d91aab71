import HealthAgent.Json.Decode
import HealthAgent.Json.Parser
/-!
# Picking fields from JSON texts

A structure is read from a text without reading more than its own fields: what else stands in the
text is passed over, however deep it is nested.
-/
namespace HealthAgent.Json

/-- The text of the value at the front of a text, and the text after it. -/
def cutValue? (cs : List Char) : Option (List Char × List Char) :=
  (passOver? cs).map fun rest => (cs.take (cs.length - rest.length), rest)

/-- Whether there is more to come in an array or object that `close` ends; also gives the text after
the comma or the end. -/
def goesOn? (close : Char) (cs : List Char) : Option (Bool × List Char) :=
  match skipBlank cs with
  | c :: rest => if c = ',' then some (true, rest) else if c = close then some (false, rest) else none
  | [] => none

/-- The texts of one or more items and the text after the closing bracket. -/
def cutItems? : (fuel : Nat) → List Char → Option (List (List Char) × List Char)
  | 0, _ => none
  | fuel + 1, cs => do
    let (item, rest) ← cutValue? cs
    match ← goesOn? ']' rest with
    | (true, rest) => (cutItems? fuel rest).map fun (items, rest) => (item :: items, rest)
    | (false, rest) => return ([item], rest)

/-- The names of one or more fields with the texts of their values, and the text after the closing
brace. -/
def cutFields? : (fuel : Nat) → List Char → Option (List (String × List Char) × List Char)
  | 0, _ => none
  | fuel + 1, cs =>
    match skipBlank cs with
    | '"' :: rest => do
      let (name, rest) ← readString? .strict rest.length rest
      match skipBlank rest with
      | ':' :: rest =>
        let (value, rest) ← cutValue? rest
        let field := (String.ofList name, value)
        match ← goesOn? '\x7d' rest with
        | (true, rest) => (cutFields? fuel rest).map fun (fs, rest) => (field :: fs, rest)
        | (false, rest) => return ([field], rest)
      | _ => none
    | _ => none

/-- What a whole text holds on its first level. -/
inductive Outline where
  | items (texts : List (List Char))
  | fields (texts : List (String × List Char))

/-- What a text of an array or an object holds on its first level. -/
def outline? (cs : List Char) : Option Outline := do
  let ended {α : Type} (wrap : α → Outline) (r : α × List Char) : Option Outline :=
    if (skipBlank r.2).isEmpty then some (wrap r.1) else none
  match skipBlank cs with
  | '[' :: rest =>
    match skipBlank rest with
    | ']' :: rest => ended .items ([], rest)
    | rest => ended .items (← cutItems? rest.length rest)
  | '\x7b' :: rest =>
    match skipBlank rest with
    | '\x7d' :: rest => ended .fields ([], rest)
    | rest => ended .fields (← cutFields? rest.length rest)
  | _ => none

/-- The values of the fields `names` of a structure, in this order; `none` inside marks a missing
field. -/
def pick? (names : List String) (cs : List Char) : Option (List (Option Json)) := do
  match ← outline? cs with
  | .items texts => fieldValues? names (.array (← texts.mapM scanAll?))
  | .fields texts =>
    let own ← (texts.filter fun (name, _) => names.contains name).mapM fun (name, text) =>
      (scanAll? text).map (name, ·)
    fieldValues? names (.object own)

end HealthAgent.Json
