import Mathlib.Data.List.Chain
import HealthAgent.Alert.Listing
import HealthAgent.Proofs.Text.Words
/-!
# Listings in their one form

A listing is read as parts, each a list of words, and written from them: `listingWords` is the reader,
`listingText` the writer, and flattening a listing is reading and writing it. The reader finds again
what the writer was given, so that a flattened listing is left as it is. What the writer gives is
described by `OneLine`, without the reader.

Results:
* `flattenListing_eq`: flattening is reading and writing.
* `listingWords_listingText`: written parts are found again.
* `oneLine_listingText`: a written listing is one line in which blanks and commas stand only between
  words and parts.
* `filter_flattenListing`: what is neither a bracket nor a comma nor blank is kept.
* `flattenListing_canonical`: the form of a flattened listing, which is flattened to itself and has
  kept the words.
-/
namespace HealthAgent
open Text

/-! ## Reading and writing -/

/-- The words of the parts of a listing; parts without words are left out. -/
def listingWords (cs : List Char) : List (List (List Char)) :=
  let unbracketed := cs.filter fun c => c ≠ '[' && c ≠ ']'
  (((lines unbracketed).flatMap (·.splitOn ',')).map words).filter (!·.isEmpty)

/-- The listing of parts that are given by their words. -/
def listingText (parts : List (List (List Char))) : List Char :=
  joinTexts [',', ' '] (parts.map (joinTexts [' ']))

/-- A word of a listing: neither empty nor with blanks, commas or brackets. -/
def ListingWord (w : List Char) : Prop :=
  w ≠ [] ∧ ∀ c ∈ w, isBlank c = false ∧ c ≠ ',' ∧ c ≠ '[' ∧ c ≠ ']'

/-- Parts that a listing can be written from: each has words. -/
def ListingParts (parts : List (List (List Char))) : Prop :=
  ∀ part ∈ parts, part ≠ [] ∧ ∀ w ∈ part, ListingWord w

theorem joinTexts_cons_cons (sep part next : List Char) (parts : List (List Char)) :
    joinTexts sep (part :: next :: parts) = part ++ sep ++ joinTexts sep (next :: parts) :=
  List.intercalate_cons_cons

/-- Only a part without words is written as nothing. -/
theorem joinTexts_isEmpty {part : List (List Char)} (h : ∀ w ∈ part, w ≠ []) (sep : List Char) :
    (joinTexts sep part).isEmpty = part.isEmpty := by
  cases part with
  | nil => rfl
  | cons w ws =>
    have hw : w ≠ [] := h w List.mem_cons_self
    cases ws with
    | nil => simpa [joinTexts] using hw
    | cons v vs => simp [joinTexts_cons_cons, hw]

theorem flattenListing_eq (cs : List Char) : flattenListing cs = listingText (listingWords cs) := by
  have hempty (part : List Char) : (joinTexts [' '] (words part)).isEmpty = (words part).isEmpty :=
    joinTexts_isEmpty (fun w hw => (mem_words hw).1) _
  unfold flattenListing listingText listingParts listingWords
  simp only [List.filter_map, List.map_map, Function.comp_def, hempty]

theorem listingParts_listingWords (cs : List Char) : ListingParts (listingWords cs) := by
  intro part hpart
  obtain ⟨hmem, hne⟩ := List.mem_filter.1 hpart
  obtain ⟨text, htext, rfl⟩ := List.mem_map.1 hmem
  obtain ⟨line, hline, htext⟩ := List.mem_flatMap.1 htext
  rw [List.splitOn_eq_splitOnP] at htext
  refine ⟨by simpa using hne, fun w hw => ⟨(mem_words hw).1, fun c hc => ?_⟩⟩
  obtain ⟨hctext, hblank⟩ := (mem_words hw).2 c hc
  obtain ⟨hcline, hcomma⟩ := of_mem_splitOnP htext hctext
  have hbare : c ∈ (lines (cs.filter fun c => c ≠ '[' && c ≠ ']')).flatten.filter (!isBlank ·) :=
    List.mem_filter.2 ⟨List.mem_flatten.2 ⟨line, hline, hcline⟩, by simp [hblank]⟩
  rw [filter_flatten_lines (by decide) (by decide)] at hbare
  simp only [List.mem_filter, Bool.and_eq_true, decide_eq_true_eq] at hbare
  exact ⟨hblank, by simpa using hcomma, hbare.1.2⟩

/-! ## The form of a written listing -/

/-- A listing in one line: blanks are single spaces within it, and commas with a space behind them
stand between parts that are not empty and have no space at their ends. -/
structure OneLine (cs : List Char) : Prop where
  unbracketed : '[' ∉ cs ∧ ']' ∉ cs
  unbroken : '\n' ∉ cs ∧ '\r' ∉ cs
  blanks : ∀ c ∈ cs, isBlank c = true → c = ' '
  single : ¬ [' ', ' '] <:+: cs
  interior : cs.head? ≠ some ' ' ∧ cs.getLast? ≠ some ' '
  parted : cs = [] ∨ ∃ first rest, cs.splitOn ',' = first :: rest.map (' ' :: ·) ∧
    ∀ part ∈ first :: rest, part ≠ [] ∧ part.head? ≠ some ' ' ∧ part.getLast? ≠ some ' '

/-- A text that is not empty, has no space at its ends and no two spaces side by side. -/
structure Tight (cs : List Char) : Prop where
  nonempty : cs ≠ []
  single : cs.IsChain fun a b => a ≠ ' ' ∨ b ≠ ' '
  first : cs.head? ≠ some ' '
  last : cs.getLast? ≠ some ' '

theorem ListingWord.tight {w : List Char} (h : ListingWord w) : Tight w := by
  have hspace : ' ' ∉ w := fun hmem => absurd (h.2 ' ' hmem).1 (by decide)
  refine ⟨h.1, ?_, fun hfirst => hspace (List.mem_of_head? hfirst),
    fun hlast => hspace (List.mem_of_getLast? hlast)⟩
  refine (List.pairwise_of_forall_mem_list fun a ha b _ => .inl ?_).isChain
  rintro rfl
  exact hspace ha

/-- The separators of a listing: one space between words, a comma and a space between parts. -/
theorem Tight.append {xs ys sep : List Char} (hx : Tight xs) (hy : Tight ys)
    (hsep : sep = [' '] ∨ sep = [',', ' ']) : Tight (xs ++ sep ++ ys) := by
  have hlast : ∀ a ∈ xs.getLast?, a ≠ ' ' := by
    rintro a ha rfl
    exact hx.last ha
  have hfirst : ∀ b ∈ ys.head?, b ≠ ' ' := by
    rintro b hb rfl
    exact hy.first hb
  have hchain : sep.IsChain fun a b => a ≠ ' ' ∨ b ≠ ' ' := by
    rcases hsep with rfl | rfl <;> decide
  refine ⟨by simp [hx.nonempty], ?_, ?_, ?_⟩
  · refine (hx.single.append hchain fun a ha b _ => .inl (hlast a ha)).append hy.single ?_
    exact fun a _ b hb => .inr (hfirst b hb)
  · obtain ⟨x, xs, rfl⟩ := List.exists_cons_of_ne_nil hx.nonempty
    exact hx.first
  · rw [List.getLast?_append_of_ne_nil _ hy.nonempty]
    exact hy.last

theorem tight_joinTexts {sep : List Char} (hsep : sep = [' '] ∨ sep = [',', ' '])
    {parts : List (List Char)} (hne : parts ≠ []) (h : ∀ part ∈ parts, Tight part) :
    Tight (joinTexts sep parts) := by
  induction parts with
  | nil => exact absurd rfl hne
  | cons part parts ih =>
    obtain ⟨hpart, hparts⟩ := List.forall_mem_cons.1 h
    cases parts with
    | nil => simpa [joinTexts] using hpart
    | cons next parts =>
      rw [joinTexts_cons_cons]
      exact hpart.append (ih (by simp) hparts) hsep

/-- A text put together holds what its parts hold, and separators. -/
theorem mem_joinTexts {sep : List Char} {parts : List (List Char)} {c : Char}
    (h : c ∈ joinTexts sep parts) : c ∈ sep ∨ ∃ part ∈ parts, c ∈ part := by
  induction parts with
  | nil => simp [joinTexts] at h
  | cons part parts ih =>
    cases parts with
    | nil => exact .inr ⟨part, List.mem_cons_self, by simpa [joinTexts] using h⟩
    | cons next parts =>
      rw [joinTexts_cons_cons, List.mem_append, List.mem_append] at h
      rcases h with (h | h) | h
      · exact .inr ⟨part, List.mem_cons_self, h⟩
      · exact .inl h
      · exact (ih h).imp_right fun ⟨other, hother, hc⟩ => ⟨other, List.mem_cons_of_mem _ hother, hc⟩

/-- Parts without commas are found again between the commas, each but the first behind a space. -/
theorem splitOn_joinTexts {part : List Char} {parts : List (List Char)}
    (h : ∀ p ∈ part :: parts, ',' ∉ p) :
    (joinTexts [',', ' '] (part :: parts)).splitOn ',' = part :: parts.map (' ' :: ·) := by
  induction parts generalizing part with
  | nil => simpa [joinTexts] using List.splitOn_eq_singleton (h part List.mem_cons_self)
  | cons next parts ih =>
    obtain ⟨hpart, hparts⟩ := List.forall_mem_cons.1 h
    have hnext : ∀ p ∈ (' ' :: next) :: parts, ',' ∉ p := by
      simpa using hparts
    have hspace : joinTexts [',', ' '] ((' ' :: next) :: parts) =
        ' ' :: joinTexts [',', ' '] (next :: parts) := by
      cases parts <;> simp [joinTexts]
    rw [joinTexts_cons_cons, List.append_assoc, List.cons_append, List.cons_append,
      List.nil_append, List.splitOn_append_cons_self_of_not_mem hpart, ← hspace, ih hnext,
      List.map_cons]

/-- A listing in one line is read by cutting it at the commas. -/
theorem OneLine.listingWords_eq {cs : List Char} (h : OneLine cs) (hne : cs ≠ []) :
    listingWords cs = ((cs.splitOn ',').map words).filter (!·.isEmpty) := by
  have hbare : cs.filter (fun c => c ≠ '[' && c ≠ ']') = cs := by
    refine List.filter_eq_self.2 fun c hc => ?_
    have hopen : c ≠ '[' := fun heq => h.unbracketed.1 (heq ▸ hc)
    have hclose : c ≠ ']' := fun heq => h.unbracketed.2 (heq ▸ hc)
    simp [hopen, hclose]
  simp only [listingWords, hbare, lines_last hne h.unbroken.1, List.flatMap_singleton]

section Written

variable {parts : List (List (List Char))} (h : ListingParts parts)
include h

theorem ListingParts.tight : ∀ text ∈ parts.map (joinTexts [' ']), Tight text := by
  intro text htext
  obtain ⟨part, hpart, rfl⟩ := List.mem_map.1 htext
  obtain ⟨hne, hwords⟩ := h part hpart
  exact tight_joinTexts (.inl rfl) hne fun w hw => (hwords w hw).tight

theorem ListingParts.mem {c : Char} (hc : c ∈ listingText parts) :
    c = ',' ∨ c = ' ' ∨ isBlank c = false ∧ c ≠ ',' ∧ c ≠ '[' ∧ c ≠ ']' := by
  rcases mem_joinTexts hc with hsep | ⟨text, htext, hc⟩
  · have hsep : c = ',' ∨ c = ' ' := by simpa using hsep
    exact hsep.imp_right .inl
  · obtain ⟨part, hpart, rfl⟩ := List.mem_map.1 htext
    rcases mem_joinTexts hc with hsep | ⟨w, hw, hc⟩
    · exact .inr (.inl (by simpa using hsep))
    · exact .inr (.inr (((h part hpart).2 w hw).2 c hc))

theorem ListingParts.commaless : ∀ text ∈ parts.map (joinTexts [' ']), ',' ∉ text := by
  intro text htext hcomma
  obtain ⟨part, hpart, rfl⟩ := List.mem_map.1 htext
  rcases mem_joinTexts hcomma with hsep | ⟨w, hw, hc⟩
  · simp at hsep
  · exact (((h part hpart).2 w hw).2 ',' hc).2.1 rfl

theorem oneLine_listingText : OneLine (listingText parts) := by
  have hblanks : ∀ c ∈ listingText parts, isBlank c = true → c = ' ' := by
    intro c hc hblank
    rcases h.mem hc with rfl | rfl | ⟨hword, -⟩
    · exact absurd hblank (by decide)
    · rfl
    · simp [hblank] at hword
  have hbrackets : ∀ c ∈ listingText parts, c ≠ '[' ∧ c ≠ ']' := by
    intro c hc
    rcases h.mem hc with rfl | rfl | ⟨-, -, hword⟩
    · decide
    · decide
    · exact hword
  have hunbroken : '\n' ∉ listingText parts ∧ '\r' ∉ listingText parts :=
    ⟨fun hmem => absurd (hblanks _ hmem (by decide)) (by decide),
      fun hmem => absurd (hblanks _ hmem (by decide)) (by decide)⟩
  have hunbracketed : '[' ∉ listingText parts ∧ ']' ∉ listingText parts :=
    ⟨fun hmem => (hbrackets _ hmem).1 rfl, fun hmem => (hbrackets _ hmem).2 rfl⟩
  cases hparts : parts.map (joinTexts [' ']) with
  | nil =>
    have hnil : listingText parts = [] := by
      rw [listingText, hparts]
      rfl
    rw [hnil]
    exact ⟨by simp, by simp, by simp, by simp, by simp, .inl rfl⟩
  | cons part rest =>
    have htexts := h.tight
    have hcommas := h.commaless
    rw [hparts] at htexts hcommas
    have htight : Tight (listingText parts) := by
      rw [listingText, hparts]
      exact tight_joinTexts (.inr rfl) (by simp) htexts
    refine ⟨hunbracketed, hunbroken, hblanks, fun hdouble => ?_, ⟨htight.first, htight.last⟩,
      .inr ⟨part, rest, ?_, fun p hp => ⟨(htexts p hp).nonempty, (htexts p hp).first,
        (htexts p hp).last⟩⟩⟩
    · simpa using htight.single.infix hdouble
    · rw [listingText, hparts]
      exact splitOn_joinTexts hcommas

theorem listingWords_listingText : listingWords (listingText parts) = parts := by
  have hline := oneLine_listingText h
  have hkept : parts.filter (!·.isEmpty) = parts :=
    List.filter_eq_self.2 fun part hpart => by simpa using (h part hpart).1
  have hwords : ∀ part ∈ parts, words (joinTexts [' '] part) = part := fun part hpart =>
    words_intercalate (by decide) fun w hw =>
      ⟨((h part hpart).2 w hw).1, fun c hc => (((h part hpart).2 w hw).2 c hc).1⟩
  cases parts with
  | nil => rfl
  | cons part rest =>
    have hne : listingText (part :: rest) ≠ [] := (tight_joinTexts (.inr rfl) (by simp) h.tight).nonempty
    obtain ⟨hpart, hrest⟩ := List.forall_mem_cons.1 hwords
    have hbehind : (rest.map (joinTexts [' '])).map (fun text => words (' ' :: text)) = rest := by
      rw [List.map_map]
      refine (List.map_congr_left fun p hp => ?_).trans (List.map_id rest)
      exact (words_cons (by decide) _).trans (hrest p hp)
    rw [hline.listingWords_eq hne, listingText, List.map_cons, splitOn_joinTexts h.commaless,
      List.map_cons, List.map_map, hpart]
    exact (congrArg (fun rest => (part :: rest).filter (!·.isEmpty)) hbehind).trans hkept

end Written

/-! ## What is kept -/

/-- Separators that are passed over leave the parts of a text. -/
theorem filter_joinTexts {p : Char → Bool} {sep : List Char} (hsep : sep.filter p = [])
    (parts : List (List Char)) : (joinTexts sep parts).filter p = parts.flatten.filter p := by
  induction parts with
  | nil => rfl
  | cons part parts ih =>
    cases parts with
    | nil => simp [joinTexts]
    | cons next parts =>
      rw [joinTexts_cons_cons, List.filter_append, List.filter_append, hsep, ih]
      simp

/-- A character that is neither a bracket nor a comma nor blank. -/
def isListed (c : Char) : Bool := c ≠ '[' && c ≠ ']' && c ≠ ',' && !isBlank c

/-- Cutting lines at commas loses nothing that is listed. -/
theorem filter_flatMap_splitOn (ls : List (List Char)) :
    (ls.flatMap (·.splitOn ',')).flatten.filter isListed = ls.flatten.filter isListed := by
  induction ls with
  | nil => rfl
  | cons l ls ih =>
    have hcut : (l.splitOn ',').flatten.filter isListed = l.filter isListed := by
      rw [List.splitOn_eq_splitOnP, flatten_splitOnP, List.filter_filter]
      refine List.filter_congr fun c _ => ?_
      by_cases hc : c = ',' <;> simp [isListed, hc]
    simp [hcut, ih]

/-- A flattened listing has kept all that is neither a bracket nor a comma nor blank, in order. -/
theorem filter_flattenListing (cs : List Char) :
    (flattenListing cs).filter isListed = cs.filter isListed := by
  have hpart (part : List Char) : (joinTexts [' '] (words part)).filter isListed =
      part.filter isListed := by
    rw [filter_joinTexts (by decide), flatten_words, List.filter_filter]
    refine List.filter_congr fun c _ => ?_
    by_cases hc : isBlank c = true <;> simp [isListed, hc]
  have hbare : (cs.filter fun c => c ≠ '[' && c ≠ ']').filter isListed = cs.filter isListed := by
    rw [List.filter_filter]
    refine List.filter_congr fun c _ => ?_
    by_cases hopen : c = '[' <;> by_cases hclose : c = ']' <;> simp [isListed, hopen, hclose]
  unfold flattenListing listingParts
  rw [filter_joinTexts (by decide), List.flatten_filter_not_isEmpty, List.filter_flatten, List.map_map]
  simp only [Function.comp_def, hpart]
  rw [← List.filter_flatten, filter_flatMap_splitOn, filter_flatten_lines (by decide) (by decide), hbare]

/-- **The one form of a listing.** Whatever the text, its flattened listing is one line without brackets,
in which single spaces stand between words and a comma with a space between parts; it is flattened to
itself, and the characters that are neither brackets nor commas nor blank are those of the text, in
order. -/
theorem flattenListing_canonical (cs : List Char) :
    OneLine (flattenListing cs) ∧ flattenListing (flattenListing cs) = flattenListing cs ∧
      (flattenListing cs).filter isListed = cs.filter isListed := by
  have hparts := listingParts_listingWords cs
  have hkept := filter_flattenListing cs
  rw [flattenListing_eq cs] at hkept ⊢
  refine ⟨oneLine_listingText hparts, ?_, hkept⟩
  rw [flattenListing_eq, listingWords_listingText hparts]

example : flattenListing "[a]\r\n [,b]\n[c\u00A0 d  ]".toList = "a, b, c d".toList := by decide

end HealthAgent
