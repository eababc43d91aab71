/-!
# Cutting a text at a separator

A cut takes the separator out and leaves the texts on its two sides.
-/
namespace HealthAgent.Text

/-- The parts before and after the first occurrence of `sep`, if there is one. -/
def cutAt (sep : Char) : List Char → Option (List Char × List Char)
  | [] => none
  | c :: cs =>
    if c = sep then some ([], cs)
    else (cutAt sep cs).map fun (before, after) => (c :: before, after)

/-- The parts before and after the last occurrence of the text `pat`, if there is one. -/
def cutAtLast (pat : List Char) : List Char → Option (List Char × List Char)
  | [] => none
  | c :: cs =>
    match cutAtLast pat cs with
    | some (before, after) => some (c :: before, after)
    | none => if pat.isPrefixOf (c :: cs) then some ([], (c :: cs).drop pat.length) else none

/-- The text after `lead`, if it starts with it. -/
def dropLead? (lead : List Char) (cs : List Char) : Option (List Char) :=
  if lead.isPrefixOf cs then some (cs.drop lead.length) else none

/-- Whether `pat` occurs in a text. -/
def occursIn (pat : List Char) : List Char → Bool
  | [] => pat.isEmpty
  | c :: cs => pat.isPrefixOf (c :: cs) || occursIn pat cs

/-- The texts between the occurrences of `sep`; one more than there are separators. -/
def fields (sep : Char) (cs : List Char) : List (List Char) :=
  cs.splitOn sep

end HealthAgent.Text
