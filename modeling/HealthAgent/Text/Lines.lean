import HealthAgent.Text.Blank
/-!
# Lines

A line ends with a line feed; one carriage return right before the line feed belongs to the line
end. The text after the last line feed is a line of its own unless it is empty, and keeps a carriage
return at its end.

Results:
* `lines_nil`, `lines_cons_newline`: the empty text has no lines; an empty first line is kept.
-/
namespace HealthAgent.Text

/-- A line without the carriage return of its line end. -/
def dropReturn (line : List Char) : List Char :=
  if line.getLast? = some '\r' then line.dropLast else line

/-- The lines of a text, without line ends. -/
def lines (cs : List Char) : List (List Char) :=
  let parts := cs.splitOn '\n'
  let rest := parts.getLastD []
  parts.dropLast.map dropReturn ++ (if rest.isEmpty then [] else [rest])

/-- The lines of a text that hold more than blanks. -/
def writtenLines (cs : List Char) : List (List Char) :=
  (lines cs).filter (!allBlank ·)

theorem lines_nil : lines [] = [] := rfl

theorem lines_cons_newline (cs : List Char) : lines ('\n' :: cs) = [] :: lines cs := by
  have h : ('\n' :: cs).splitOn '\n' = [] :: cs.splitOn '\n' := by
    simp [List.splitOn_eq_splitOnP, List.splitOnP_cons_eq_if_modifyHead]
  obtain ⟨p, ps, hp⟩ := List.exists_cons_of_ne_nil (List.splitOn_ne_nil '\n' cs)
  simp [lines, h, hp, dropReturn]

end HealthAgent.Text

namespace String
open HealthAgent

/-- The lines of this text, without line ends. -/
def textLines (s : String) : List String := (Text.lines s.toList).map .ofList

/-- The lines of this text that hold more than blanks. -/
def writtenLines (s : String) : List String := (Text.writtenLines s.toList).map .ofList

end String
