import HealthAgent.Text.Cut
import Mathlib.Data.List.Basic
/-!
# Cutting what has been put together

A text put together from parts around a separator is cut into these parts where no other separator
comes in the way: before the first one for a cut at the first, behind the last one for a cut at the
last.

Results:
* `cutAt_append`, `cutAt_eq_none`: a cut at the first separator.
* `cutAtLast_append`, `cutAtLast_eq_none`: a cut at the last occurrence of a text.
* `dropLead?_eq_some_iff`: a lead is taken off exactly where it stands.
* `splitOn_intercalate_append`: the first fields of a row do not depend on those that follow.
-/
namespace HealthAgent.Text

theorem cutAt_append {sep : Char} {before : List Char} (h : sep ∉ before) (after : List Char) :
    cutAt sep (before ++ sep :: after) = some (before, after) := by
  induction before with
  | nil => simp [cutAt]
  | cons c before ih =>
    obtain ⟨hc, hbefore⟩ := List.ne_and_not_mem_of_not_mem_cons h
    simp [cutAt, hc.symm, ih hbefore]

theorem cutAt_eq_none {sep : Char} {cs : List Char} (h : sep ∉ cs) : cutAt sep cs = none := by
  induction cs with
  | nil => rfl
  | cons c cs ih =>
    obtain ⟨hc, hcs⟩ := List.ne_and_not_mem_of_not_mem_cons h
    simp [cutAt, hc.symm, ih hcs]

theorem cutAtLast_eq_none {c : Char} {cs : List Char} (h : c ∉ cs) (tail : List Char) :
    cutAtLast (c :: tail) cs = none := by
  induction cs with
  | nil => rfl
  | cons d cs ih =>
    obtain ⟨hd, hcs⟩ := List.ne_and_not_mem_of_not_mem_cons h
    simp [cutAtLast, ih hcs, hd]

/-- A cut at the last occurrence finds the one behind which the first character does not come again. -/
theorem cutAtLast_append {c : Char} {tail after : List Char} (htail : c ∉ tail) (hafter : c ∉ after)
    (before : List Char) :
    cutAtLast (c :: tail) (before ++ (c :: tail) ++ after) = some (before, after) := by
  induction before with
  | nil =>
    have hnone : cutAtLast (c :: tail) (tail ++ after) = none :=
      cutAtLast_eq_none (by simp [htail, hafter]) tail
    simp [cutAtLast, hnone]
  | cons d before ih => simp only [List.cons_append, cutAtLast, ih]

theorem dropLead?_eq_some_iff {lead cs rest : List Char} :
    dropLead? lead cs = some rest ↔ cs = lead ++ rest := by
  rw [dropLead?]
  constructor
  · intro h
    split at h
    · next hlead =>
      obtain ⟨more, rfl⟩ := List.isPrefixOf_iff_prefix.1 hlead
      simp_all
    · cases h
  · rintro rfl
    simp

/-- The first fields of a row do not depend on those that follow. -/
theorem splitOn_intercalate_append {sep : Char} {parts : List (List Char)} (hne : parts ≠ [])
    (h : ∀ part ∈ parts, sep ∉ part) (more : List (List Char)) :
    ∃ rest, ([sep].intercalate (parts ++ more)).splitOn sep = parts ++ rest := by
  obtain ⟨part, parts, rfl⟩ := List.exists_cons_of_ne_nil hne
  induction parts generalizing part with
  | nil =>
    have hpart : sep ∉ part := h part List.mem_cons_self
    cases more with
    | nil => exact ⟨[], by simp [List.splitOn_eq_singleton hpart]⟩
    | cons field more =>
      refine ⟨([sep].intercalate (field :: more)).splitOn sep, ?_⟩
      rw [List.singleton_append, List.intercalate_cons_cons, List.append_assoc]
      exact List.splitOn_append_cons_self_of_not_mem hpart _
  | cons part' parts ih =>
    have hpart : sep ∉ part := h part List.mem_cons_self
    obtain ⟨rest, hrest⟩ := ih part' (by simp) fun p hp => h p (List.mem_cons_of_mem _ hp)
    refine ⟨rest, ?_⟩
    rw [List.cons_append, List.cons_append, List.intercalate_cons_cons, List.append_assoc,
      List.singleton_append, List.splitOn_append_cons_self_of_not_mem hpart]
    exact congrArg (part :: ·) hrest

end HealthAgent.Text
