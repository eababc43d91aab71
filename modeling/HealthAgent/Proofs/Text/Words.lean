import HealthAgent.Proofs.Text.Lines
/-!
# Words and parts of a text

Cutting a text at characters of a class loses these characters and nothing else. The words of a text are
the parts between blanks that are not empty; between two texts with a blank between them no word is
joined or lost, so that words put together with single blanks are found again.

Results:
* `flatten_splitOnP`: the parts of a text hold all but the separators, in order.
* `flatten_words`, `filter_flatten_lines`: what is left of a text in its words and in its lines.
* `words_append_cons`: the words on the two sides of a blank.
* `words_intercalate`: words put together with single blanks are found again.
-/
namespace HealthAgent.Text

/-- The parts of a text hold all but the separators, in order. -/
theorem flatten_splitOnP (p : Char → Bool) (cs : List Char) :
    (cs.splitOnP p).flatten = cs.filter (!p ·) := by
  induction cs with
  | nil => simp [List.splitOnP_nil]
  | cons c cs ih =>
    obtain ⟨part, parts, hparts⟩ := List.exists_cons_of_ne_nil (List.splitOnP_ne_nil p cs)
    rw [hparts] at ih
    rw [List.splitOnP_cons_eq_if_modifyHead, hparts]
    by_cases hc : p c = true
    · simpa [hc] using ih
    · simpa [hc] using ih

theorem of_mem_splitOnP {p : Char → Bool} {cs part : List Char} (h : part ∈ cs.splitOnP p)
    {c : Char} (hc : c ∈ part) : c ∈ cs ∧ p c = false := by
  have hmem : c ∈ (cs.splitOnP p).flatten := List.mem_flatten.2 ⟨part, h, hc⟩
  rw [flatten_splitOnP] at hmem
  simpa using hmem

/-- What is left of a text in its lines, of characters that end no line. -/
theorem filter_flatten_lines {p : Char → Bool} (hfeed : p '\n' = false) (hreturn : p '\r' = false)
    (cs : List Char) : (lines cs).flatten.filter p = cs.filter p := by
  have hlines := linesAre_lines cs
  generalize lines cs = ls at hlines
  induction hlines with
  | nil => rfl
  | last line => simp
  | feed line _ _ _ ih => simp [hfeed, ih]
  | returnFeed line _ _ ih => simp [hfeed, hreturn, ih]

/-! ## Words -/

theorem mem_words {cs word : List Char} (h : word ∈ words cs) :
    word ≠ [] ∧ ∀ c ∈ word, c ∈ cs ∧ isBlank c = false := by
  obtain ⟨hword, hne⟩ := List.mem_filter.1 h
  exact ⟨by simpa using hne, fun c hc => of_mem_splitOnP hword hc⟩

/-- The words of a text hold all but its blanks, in order. -/
theorem flatten_words (cs : List Char) : (words cs).flatten = cs.filter (!isBlank ·) := by
  rw [words, List.flatten_filter_not_isEmpty, flatten_splitOnP]

theorem words_append_cons {c : Char} (hc : isBlank c = true) (before after : List Char) :
    words (before ++ c :: after) = words before ++ words after := by
  rw [words, List.splitOnP_append_cons _ _ hc, List.filter_append]
  rfl

theorem words_cons {c : Char} (hc : isBlank c = true) (cs : List Char) : words (c :: cs) = words cs :=
  words_append_cons hc [] cs

theorem words_of_unblank {word : List Char} (hne : word ≠ []) (h : ∀ c ∈ word, isBlank c = false) :
    words word = [word] := by
  rw [words, List.splitOnP_eq_singleton h]
  simp [hne]

/-- Words put together with single blanks are found again. -/
theorem words_intercalate {c : Char} (hc : isBlank c = true) {ws : List (List Char)}
    (h : ∀ w ∈ ws, w ≠ [] ∧ ∀ c ∈ w, isBlank c = false) : words ([c].intercalate ws) = ws := by
  induction ws with
  | nil => rfl
  | cons w ws ih =>
    obtain ⟨hw, hws⟩ := List.forall_mem_cons.1 h
    have hfirst := words_of_unblank hw.1 hw.2
    cases ws with
    | nil => simpa using hfirst
    | cons v vs =>
      rw [List.intercalate_cons_cons, List.append_assoc, List.singleton_append, words_append_cons hc,
        hfirst, ih hws, List.singleton_append]

end HealthAgent.Text
