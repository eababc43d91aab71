import HealthAgent.Text.Lines
import Mathlib.Data.List.Basic
/-!
# Which lines a text has

`LinesAre text ls` tells the lines of a text from the way it is put together, line by line: a line ends
with a line feed, or with a carriage return and a line feed, and the last one may have no end. Cutting
a text into lines finds the lines that it was put together from, and every text has been put together
in this way.

Results:
* `lines_feed`: the lines of a text go on behind a line feed.
* `linesAre_iff`: a text is cut into the lines that it has.
-/
namespace HealthAgent.Text

/-- `LinesAre text ls`: the text has these lines, given without their ends. -/
inductive LinesAre : List Char → List (List Char) → Prop
  | nil : LinesAre [] []
  /-- The last line may have no end. -/
  | last (line : List Char) (nonempty : line ≠ []) (unbroken : '\n' ∉ line) : LinesAre line [line]
  /-- A carriage return before the line feed would belong to the end of the line. -/
  | feed (line : List Char) (unbroken : '\n' ∉ line) (bare : line.getLast? ≠ some '\r')
      {rest : List Char} {ls : List (List Char)} (more : LinesAre rest ls) :
      LinesAre (line ++ '\n' :: rest) (line :: ls)
  | returnFeed (line : List Char) (unbroken : '\n' ∉ line) {rest : List Char}
      {ls : List (List Char)} (more : LinesAre rest ls) :
      LinesAre (line ++ '\r' :: '\n' :: rest) (line :: ls)

theorem lines_last {line : List Char} (hne : line ≠ []) (h : '\n' ∉ line) : lines line = [line] := by
  rw [lines, List.splitOn_eq_singleton h]
  simpa using hne

/-- The lines of a text go on behind a line feed. -/
theorem lines_feed {line : List Char} (h : '\n' ∉ line) (rest : List Char) :
    lines (line ++ '\n' :: rest) = dropReturn line :: lines rest := by
  have hsplit : (line ++ '\n' :: rest).splitOn '\n' = line :: rest.splitOn '\n' :=
    List.splitOn_append_cons_self_of_not_mem h rest
  obtain ⟨part, parts, hparts⟩ := List.exists_cons_of_ne_nil (List.splitOn_ne_nil '\n' rest)
  simp [lines, hsplit, hparts]

theorem linesAre_lines (cs : List Char) : LinesAre cs (lines cs) := by
  by_cases hfeed : '\n' ∈ cs
  · obtain ⟨line, rest, rfl, hline⟩ := List.eq_append_cons_of_mem hfeed
    have ih := linesAre_lines rest
    rw [lines_feed hline]
    by_cases hreturn : line.getLast? = some '\r'
    · obtain ⟨start, rfl⟩ := List.getLast?_eq_some_iff.1 hreturn
      rw [dropReturn, if_pos hreturn, List.dropLast_concat, List.append_assoc]
      exact .returnFeed start (fun hmem => hline (List.mem_append_left _ hmem)) ih
    · rw [dropReturn, if_neg hreturn]
      exact .feed line hline hreturn ih
  · cases cs with
    | nil => exact .nil
    | cons c cs =>
      rw [lines_last (by simp) hfeed]
      exact .last _ (by simp) hfeed
termination_by cs.length

theorem linesAre_iff {cs : List Char} {ls : List (List Char)} : LinesAre cs ls ↔ lines cs = ls := by
  constructor
  · intro h
    induction h with
    | nil => rfl
    | last line hne hline => exact lines_last hne hline
    | feed line hline hbare _ ih => rw [lines_feed hline, ih, dropReturn, if_neg hbare]
    | returnFeed line hline _ ih =>
      have hunbroken : '\n' ∉ line ++ ['\r'] := by simpa using hline
      have hcut := lines_feed hunbroken
      simp only [List.append_assoc, List.cons_append, List.nil_append] at hcut
      simp [hcut, ih, dropReturn]
  · rintro rfl
    exact linesAre_lines cs

end HealthAgent.Text
