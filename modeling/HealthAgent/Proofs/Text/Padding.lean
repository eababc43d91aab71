import HealthAgent.Text.Blank
import Mathlib.Data.List.Basic
import Mathlib.Data.List.TakeWhile
/-!
# Texts between blanks

A field may stand between any blanks. Trimming takes off all of them and nothing else, so what a field
is read as does not depend on its surroundings.

Results:
* `trim_between`: a text between blanks is trimmed to what the text itself is trimmed to.
* `trim_trim`: what has been trimmed is trimmed.
* `Trimmed.between`, `Trimmed.append`: trimmed texts between blanks, and put together.
-/
namespace HealthAgent.Text

/-- `Between text line`: `line` is `text` between blanks, which may be missing on either side. -/
def Between (text line : List Char) : Prop :=
  ∃ before after, line = before ++ text ++ after ∧
    (∀ c ∈ before, isBlank c = true) ∧ ∀ c ∈ after, isBlank c = true

/-- Neither the first nor the last character is blank, if there are any. -/
def Trimmed (cs : List Char) : Prop := trim cs = cs

instance (cs : List Char) : Decidable (Trimmed cs) := inferInstanceAs (Decidable (trim cs = cs))

theorem trimEnd_trimStart_append {cs after : List Char} (h : ∀ c ∈ after, isBlank c = true) :
    trimEnd (trimStart (cs ++ after)) = trimEnd (trimStart cs) := by
  have hafter : after.dropWhile isBlank = [] := List.dropWhile_eq_nil_iff.2 h
  rw [trimStart, trimStart, List.dropWhile_append]
  split
  · next hnone => rw [hafter, List.isEmpty_iff.1 hnone]
  · have hdrop : (after.reverse ++ (cs.dropWhile isBlank).reverse).dropWhile isBlank =
        (cs.dropWhile isBlank).reverse.dropWhile isBlank :=
      List.dropWhile_append_of_pos fun c hc => h c (List.mem_reverse.1 hc)
    rw [trimEnd, trimEnd, List.reverse_append, hdrop]

/-- A text between blanks is trimmed to what the text itself is trimmed to. -/
theorem trim_between {text line : List Char} (h : Between text line) : trim line = trim text := by
  obtain ⟨before, after, rfl, hbefore, hafter⟩ := h
  rw [trim, trim, List.append_assoc, trimStart, List.dropWhile_append_of_pos hbefore]
  exact trimEnd_trimStart_append hafter

/-- Blanks around a text do not make it a blank one, nor a written one. -/
theorem allBlank_between {text line : List Char} (h : Between text line) :
    allBlank line = allBlank text := by
  obtain ⟨before, after, rfl, hbefore, hafter⟩ := h
  have hbeforeBlank : before.all isBlank = true := List.all_eq_true.2 hbefore
  have hafterBlank : after.all isBlank = true := List.all_eq_true.2 hafter
  simp only [allBlank, List.all_append, hbeforeBlank, hafterBlank, Bool.true_and, Bool.and_true]

theorem isBlank_head_trimStart (cs : List Char) :
    ∀ c ∈ (trimStart cs).head?, isBlank c = false := by
  intro c hc
  have hfirst := List.head?_dropWhile_not isBlank cs
  rw [Option.mem_def, trimStart] at hc
  simpa [hc] using hfirst

theorem trim_ends (cs : List Char) : (∀ c ∈ (trim cs).head?, isBlank c = false) ∧
    ∀ c ∈ (trim cs).getLast?, isBlank c = false := by
  constructor
  · intro c hc
    -- What is left of a text at its end begins as the text does.
    obtain ⟨taken, htaken⟩ : trim cs <+: trimStart cs := by
      have hsuffix := List.dropWhile_suffix isBlank (l := (trimStart cs).reverse)
      simpa [trim, trimEnd] using List.reverse_prefix.2 hsuffix
    refine isBlank_head_trimStart cs c ?_
    rw [← htaken, Option.mem_def, List.head?_append, Option.mem_def.1 hc, Option.some_or]
  · intro c hc
    rw [trim, trimEnd, List.getLast?_reverse] at hc
    exact isBlank_head_trimStart (trimStart cs).reverse c hc

theorem trim_trim (cs : List Char) : trim (trim cs) = trim cs :=
  trim_eq_self _ (trim_ends cs).1 (trim_ends cs).2

theorem Trimmed.ends {cs : List Char} (h : Trimmed cs) :
    (∀ c ∈ cs.head?, isBlank c = false) ∧ ∀ c ∈ cs.getLast?, isBlank c = false := by
  have hends := trim_ends cs
  rwa [h] at hends

theorem Trimmed.between {text line : List Char} (ht : Trimmed text) (h : Between text line) :
    trim line = text :=
  (trim_between h).trans ht

/-- Trimmed texts, put together with anything between them, are trimmed. -/
theorem Trimmed.append {xs ys : List Char} (hx : Trimmed xs) (hy : Trimmed ys) (hxne : xs ≠ [])
    (hyne : ys ≠ []) (between : List Char) : Trimmed (xs ++ between ++ ys) := by
  refine trim_eq_self _ (fun c hc => hx.ends.1 c ?_) fun c hc => hy.ends.2 c ?_
  · obtain ⟨x, xs, rfl⟩ := List.exists_cons_of_ne_nil hxne
    exact hc
  · rwa [List.getLast?_append_of_ne_nil _ hyne] at hc

theorem between_of_blank (before after : List Char) {text line : List Char}
    (h : line = before ++ text ++ after) (hbefore : allBlank before = true)
    (hafter : allBlank after = true) : Between text line :=
  ⟨before, after, h, List.all_eq_true.1 hbefore, List.all_eq_true.1 hafter⟩

theorem Between.mem {text line : List Char} (h : Between text line) {c : Char} (hc : c ∈ line) :
    isBlank c = true ∨ c ∈ text := by
  obtain ⟨before, after, rfl, hbefore, hafter⟩ := h
  rcases List.mem_append.1 hc with hc | hc
  · rcases List.mem_append.1 hc with hc | hc
    · exact .inl (hbefore c hc)
    · exact .inr hc
  · exact .inl (hafter c hc)

theorem Between.subset {text line : List Char} (h : Between text line) : text ⊆ line := by
  obtain ⟨before, after, rfl, -, -⟩ := h
  intro c hc
  exact List.mem_append_left _ (List.mem_append_right _ hc)

theorem Between.contains_eq {text line : List Char} (h : Between text line) {c : Char}
    (hc : isBlank c = false) : line.contains c = text.contains c := by
  have hiff : c ∈ line ↔ c ∈ text :=
    ⟨fun hmem => (h.mem hmem).resolve_left (by simp [hc]), fun hmem => h.subset hmem⟩
  rw [Bool.eq_iff_iff, List.contains_iff_mem, List.contains_iff_mem, hiff]

end HealthAgent.Text
