import HealthAgent.Proofs.Json.Spelling
/-!
# Texts that break off

A printed value that breaks off before its end is not mended by another object that follows: the reader
either fails, or stops at a character that nothing in a JSON text goes on with. The cases that make
this more than a count of brackets are strings. The quote that opens the first name of the text behind
closes a string that was broken off, and that name itself then stands outside of any string.

`Foreign text` is what the proof asks of the text behind: that it starts like an object, and that neither
reading a value from its front nor going on with a string into it leaves anything that a value could go
on with. Texts of objects, whole or broken off, have this property again.

Results:
* `scan?_mono`: a reader with more fuel and more depth reads the same.
* `scan?_cutOff`: a value that breaks off is not read past a foreign text.
* `foreign_flatten`: objects, each whole or broken off, are a foreign text together.
* `scanAll?_glued`: two or more objects that are glued together, each whole or broken off, are no text
  of a value.
-/
namespace HealthAgent.Json
open HealthAgent.Number

/-! ## The limits of the reader -/

mutual

/-- A reader with more fuel and more depth reads the same. -/
theorem scan?_mono {care : Care} : ∀ {fuel more depth deeper : Nat} {cs : List Char}
    {result : Json × List Char}, fuel ≤ more → depth ≤ deeper →
      scan? care fuel depth cs = some result → scan? care more deeper cs = some result
  | 0, _, _, _, _, _, _, _, h => by simp [scan?] at h
  | fuel + 1, more + 1, depth, deeper, cs, result, hf, hd, h => by
    have hf : fuel ≤ more := by omega
    rw [scan?] at h ⊢
    split at h
    · exact h
    · split at h
      · cases h
      · next hdepth =>
        simp only [show deeper ≠ 0 by omega, if_false]
        split at h
        · exact h
        · obtain ⟨⟨items, rest⟩, hitems, hread⟩ := Option.map_eq_some_iff.1 h
          rw [scanItems?_mono hf (by omega) hitems]
          exact congrArg some hread
    · split at h
      · cases h
      · next hdepth =>
        simp only [show deeper ≠ 0 by omega, if_false]
        split at h
        · exact h
        · obtain ⟨⟨fields, rest⟩, hfields, hread⟩ := Option.map_eq_some_iff.1 h
          rw [scanFields?_mono hf (by omega) hfields]
          exact congrArg some hread
    · exact h
    · exact h
    · exact h
    · exact h

theorem scanItems?_mono {care : Care} : ∀ {fuel more depth deeper : Nat} {cs : List Char}
    {result : List Json × List Char}, fuel ≤ more → depth ≤ deeper →
      scanItems? care fuel depth cs = some result → scanItems? care more deeper cs = some result
  | 0, _, _, _, _, _, _, _, h => by simp [scanItems?] at h
  | fuel + 1, more + 1, depth, deeper, cs, result, hf, hd, h => by
    have hf : fuel ≤ more := by omega
    rw [scanItems?] at h ⊢
    split at h
    · cases h
    · next item r hitem =>
      rw [scan?_mono hf hd hitem]
      simp only
      split at h
      · exact h
      · obtain ⟨⟨items, rest⟩, hitems, hread⟩ := Option.map_eq_some_iff.1 h
        rw [scanItems?_mono hf hd hitems]
        exact congrArg some hread
      · cases h

theorem scanFields?_mono {care : Care} : ∀ {fuel more depth deeper : Nat} {cs : List Char}
    {result : List (String × Json) × List Char}, fuel ≤ more → depth ≤ deeper →
      scanFields? care fuel depth cs = some result → scanFields? care more deeper cs = some result
  | 0, _, _, _, _, _, _, _, h => by simp [scanFields?] at h
  | fuel + 1, more + 1, depth, deeper, cs, result, hf, hd, h => by
    have hf : fuel ≤ more := by omega
    rw [scanFields?] at h ⊢
    split at h
    · split at h
      · cases h
      · split at h
        · split at h
          · cases h
          · next value r hvalue =>
            rw [scan?_mono hf hd hvalue]
            simp only
            split at h
            · exact h
            · obtain ⟨⟨fields, rest⟩, hfields, hread⟩ := Option.map_eq_some_iff.1 h
              rw [scanFields?_mono hf hd hfields]
              exact congrArg some hread
            · cases h
        · cases h
    · cases h

end

/-- Behind a printed value the reader leaves what stands there, whatever its limits are. -/
theorem rest_of_scan?_print {care : Care} {j v : Json} (hj : isWhole j = true) {fuel depth : Nat}
    {rest left : List Char} (hr : Ended rest)
    (h : scan? care fuel depth (print j ++ rest) = some (v, left)) : left = rest := by
  have hlarge := scan?_mono (Nat.le_max_left fuel (print j).length)
    (Nat.le_max_left depth (nesting j)) h
  rw [scan?_spelled care j (spells_print j hj) (Nat.le_max_right ..) (Nat.le_max_right ..) hr]
    at hlarge
  cases hlarge
  rfl

theorem readString?_quote (care : Care) (fuel : Nat) (rest : List Char) :
    readString? care fuel ('"' :: rest) = some ([], rest) := by
  cases fuel <;> rfl

/-- A string that is read starts with its closing quote or with a character. -/
theorem readString?_some {care : Care} {fuel : Nat} {cs s rest : List Char}
    (h : readString? care fuel cs = some (s, rest)) :
    cs = '"' :: rest ∨ ∃ less c more s', readChar? care cs = some (c, more) ∧
      readString? care less more = some (s', rest) := by
  rw [readString?.eq_def] at h
  split at h
  · cases h
    exact .inl rfl
  · cases h
  · split at h
    · cases h
    · next fuel _ _ c more hchar =>
      obtain ⟨⟨s', _⟩, hmore, hresult⟩ := Option.map_eq_some_iff.1 h
      cases hresult
      exact .inr ⟨fuel, c, more, s', hchar, hmore⟩

/-! ## What breaks off, and what stands behind it -/

/-- `CutOff text whole`: the text is `whole`, broken off before its end. -/
def CutOff (text whole : List Char) : Prop := text <+: whole ∧ text ≠ whole

theorem not_cutOff_nil {text : List Char} : ¬ CutOff text [] :=
  fun h => h.2 (List.prefix_nil.1 h.1)

theorem cutOff_cons {text whole : List Char} {c : Char} :
    CutOff text (c :: whole) ↔ text = [] ∨ ∃ more, text = c :: more ∧ CutOff more whole := by
  constructor
  · rintro ⟨hbegins, hne⟩
    rcases List.prefix_cons_iff.1 hbegins with rfl | ⟨more, rfl, hmore⟩
    · exact .inl rfl
    · exact .inr ⟨more, rfl, hmore, fun heq => hne (heq ▸ rfl)⟩
  · rintro (rfl | ⟨more, rfl, hmore, hne⟩)
    · exact ⟨List.nil_prefix, by simp⟩
    · exact ⟨(List.prefix_cons_inj c).2 hmore, by simpa using hne⟩

theorem CutOff.tail {text whole : List Char} {c d : Char} (h : CutOff (c :: text) (d :: whole)) :
    c = d ∧ CutOff text whole := by
  rcases cutOff_cons.1 h with hnil | ⟨more, heq, hmore⟩
  · cases hnil
  · cases heq
    exact ⟨rfl, hmore⟩

theorem CutOff.length_lt {text whole : List Char} (h : CutOff text whole) :
    text.length < whole.length :=
  Nat.lt_of_le_of_ne h.1.length_le fun hlength => h.2 (h.1.eq_of_length hlength)

theorem CutOff.append {text front back : List Char} (h : CutOff text (front ++ back)) :
    CutOff text front ∨ ∃ more, text = front ++ more ∧ CutOff more back := by
  induction front generalizing text with
  | nil => exact .inr ⟨text, rfl, h⟩
  | cons c front ih =>
    rcases cutOff_cons.1 h with rfl | ⟨more, rfl, hmore⟩
    · exact .inl (cutOff_cons.2 (.inl rfl))
    · rcases ih hmore with hfront | ⟨more, rfl, hback⟩
      · exact .inl (cutOff_cons.2 (.inr ⟨_, rfl, hfront⟩))
      · exact .inr ⟨more, rfl, hback⟩

/-- `Stray rest`: the front of `rest` is no blank and nothing that may stand behind a value or a
name. -/
def Stray (rest : List Char) : Prop :=
  ∀ c ∈ rest.head?, isBlank c = false ∧ c ∉ [':', ',', ']', '\x7d']

/-- Where a stray text begins, no value goes on. -/
theorem Stray.not_front {rest tail : List Char} {c : Char} (h : Stray rest)
    (hc : c ∈ [':', ',', ']', '\x7d']) : skipBlank rest ≠ c :: tail := by
  intro hskip
  cases rest with
  | nil => cases hskip
  | cons d rest =>
    obtain ⟨hblank, hd⟩ := h d rfl
    rw [skipBlank_of_front hblank] at hskip
    cases hskip
    exact hd hc

/-- What a value that is broken off does not go on with: a text that is empty or starts like an object,
and leaves something stray if it is read, as a value or as the rest of a string. -/
structure Foreign (text : List Char) : Prop where
  front : ∀ c ∈ text.head?, c = '\x7b'
  value : ∀ {fuel depth : Nat} {v : Json} {rest : List Char},
    scan? .strict fuel depth text = some (v, rest) → Stray rest
  string : ∀ {fuel : Nat} {cs rest : List Char},
    readString? .strict fuel text = some (cs, rest) → Stray rest

theorem foreign_nil : Foreign [] := by
  refine ⟨by simp, @fun fuel depth v rest h => ?_, @fun fuel cs rest h => ?_⟩
  · cases fuel with
    | zero => simp [scan?] at h
    | succ fuel => simp [scan?, skipBlank, readNumber?, readUnsigned?, takeDigits] at h
  · cases fuel <;> simp [readString?, readChar?] at h

/-! ## Scalars that break off -/

section Behind

variable {behind : List Char}

theorem Foreign.cases (h : Foreign behind) : behind = [] ∨ ∃ more, behind = '\x7b' :: more := by
  cases behind with
  | nil => exact .inl rfl
  | cons c more => exact .inr ⟨more, by rw [h.front c rfl]⟩

theorem Foreign.stray (h : Foreign behind) : Stray behind := by
  intro c hc
  rw [h.front c hc]
  decide

theorem Foreign.ended (h : Foreign behind) : Ended behind := by
  intro c hc
  rw [h.front c hc]
  decide

theorem Foreign.skipBlank (h : Foreign behind) : skipBlank behind = behind := by
  rcases h.cases with rfl | ⟨more, rfl⟩ <;> rfl

variable (hbehind : Foreign behind)
include hbehind

theorem readWord?_cutOff {text tail : List Char} (h : CutOff text tail) (htail : '\x7b' ∉ tail)
    (value : Json) : readWord? tail value (text ++ behind) = none := by
  have hword : ¬ tail <+: text ++ behind := by
    intro hbegins
    obtain ⟨more, rfl⟩ := h.1
    have hmore := (List.prefix_append_right_inj text).1 hbegins
    cases more with
    | nil => exact h.2 (List.append_nil text).symm
    | cons c more =>
      obtain ⟨rest, rfl⟩ := hmore
      obtain rfl := hbehind.front c rfl
      simp at htail
  rw [readWord?, if_neg]
  simpa using hword

omit hbehind in
theorem hex4?_of_mem {a b c d : Char} (h : '\x7b' ∈ [a, b, c, d]) : hex4? a b c d = none := by
  have hbrace : digitValue? 16 '\x7b' = none := by decide
  simp only [List.mem_cons, List.not_mem_nil, or_false] at h
  rcases h with rfl | rfl | rfl | rfl <;> simp [hex4?, hbrace]

/-- Fewer than four digits are no escape with a foreign text behind them. -/
theorem readEscape?_short {text : List Char} (h : text.length < 4) :
    readEscape? .strict (text ++ behind) = none := by
  rw [readEscape?.eq_def]
  split
  · next a b c d cs heq =>
    obtain ⟨more, rfl⟩ : ∃ more, behind = '\x7b' :: more := by
      refine hbehind.cases.resolve_left ?_
      rintro rfl
      have hlength := congrArg List.length heq
      simp only [List.append_nil, List.length_cons] at hlength
      omega
    have hbrace : '\x7b' ∈ [a, b, c, d] := by
      obtain ⟨k, hk⟩ : ∃ k, 4 - text.length = k + 1 := ⟨3 - text.length, by omega⟩
      have hfront := congrArg (List.take 4) heq
      rw [List.take_append, hk, List.take_succ_cons] at hfront
      change _ ∈ List.take 4 (a :: b :: c :: d :: cs)
      rw [← hfront]
      exact List.mem_append_right _ List.mem_cons_self
    rw [hex4?_of_mem hbrace]
  · rfl

theorem readChar?_backslash : readChar? .strict ('\\' :: behind) = none := by
  rcases hbehind.cases with rfl | ⟨more, rfl⟩ <;> rfl

/-- A written character that breaks off is no character with a foreign text behind it. -/
theorem readChar?_cutOff {text : List Char} {c : Char} (h : CutOff text (encodeChar c))
    (hne : text ≠ []) : readChar? .strict (text ++ behind) = none := by
  have hpair : ∀ {d}, CutOff text ['\\', d] → readChar? .strict (text ++ behind) = none := by
    intro d hcut
    simp only [cutOff_cons, not_cutOff_nil, and_false, exists_false, or_false] at hcut
    obtain ⟨-, rfl, rfl⟩ := hcut.resolve_left hne
    exact readChar?_backslash hbehind
  unfold encodeChar at h
  iterate 7
    split at h
    · exact hpair h
  split at h
  · next hlow =>
    rcases h.append with hcut | ⟨digits, rfl, hdigits⟩
    · exact hpair hcut
    · rw [hexPadded_control ⟨c.toNat, hlow⟩] at hdigits
      exact readEscape?_short hbehind (hdigits.length_lt)
  · rw [cutOff_cons] at h
    obtain ⟨more, -, hmore⟩ := h.resolve_left hne
    exact absurd hmore not_cutOff_nil

/-- A string that breaks off is not read past a foreign text. -/
theorem readString?_cutOff (cs : List Char) {text : List Char}
    (h : CutOff text (cs.flatMap encodeChar ++ ['"'])) {fuel : Nat} {s rest : List Char}
    (hread : readString? .strict fuel (text ++ behind) = some (s, rest)) : Stray rest := by
  induction cs generalizing text fuel s with
  | nil =>
    rcases cutOff_cons.1 h with rfl | ⟨more, -, hmore⟩
    · exact hbehind.string hread
    · exact absurd hmore not_cutOff_nil
  | cons c cs ih =>
    by_cases hne : text = []
    · subst hne
      exact hbehind.string hread
    rw [List.flatMap_cons, List.append_assoc] at h
    obtain ⟨d, ds, hd, hquote⟩ := encodeChar_head c
    have hfirst : text ++ behind ≠ '"' :: rest := by
      rw [hd, List.cons_append] at h
      obtain ⟨more, rfl, -⟩ := (cutOff_cons.1 h).resolve_left hne
      rintro ⟨⟩
      exact hquote rfl
    obtain ⟨less, e, more, s', hchar, hmore⟩ := (readString?_some hread).resolve_left hfirst
    rcases h.append with hcut | ⟨text, rfl, hcut⟩
    · rw [readChar?_cutOff hbehind hcut hne] at hchar
      cases hchar
    · rw [List.append_assoc, readChar?_encodeChar] at hchar
      cases hchar
      exact ih hcut hmore

theorem readUnsigned?_digits {negative : Bool} {ds rest : List Char} {n : Number}
    (hds : ∀ c ∈ ds, c.isDigit = true)
    (hread : readUnsigned? negative (ds ++ behind) = some (n, rest)) : rest = behind := by
  rw [readUnsigned?, takeDigits_append hds hbehind.ended] at hread
  simp only at hread
  split at hread
  · cases hread
  · split at hread
    · next r => exact absurd rfl (hbehind.ended '.' rfl).2.1
    · rw [readExponent?_ended hbehind.ended] at hread
      cases hread
      rfl

/-- A whole number that breaks off is read up to a foreign text, if anything of it is left. -/
theorem readNumber?_cutOff {n m : Number} (hn : n.isWhole = true) {text rest : List Char}
    (h : CutOff text (printNumber n)) (hne : text ≠ [])
    (hread : readNumber? (text ++ behind) = some (m, rest)) : rest = behind := by
  cases n with
  | float bits => simp [Number.isWhole] at hn
  | whole n =>
    have hdigits : ∀ {ds}, ds <+: Nat.toDigits 10 n.natAbs → ∀ c ∈ ds, c.isDigit = true :=
      fun hds c hc => Nat.isDigit_of_mem_toDigits (by decide) (by decide) (hds.subset hc)
    have hbegins := h.1
    obtain ⟨c, cs, rfl⟩ := List.exists_cons_of_ne_nil hne
    rw [printNumber] at hbegins
    split at hbegins
    · obtain ⟨rfl, hds⟩ := List.cons_prefix_cons.1 hbegins
      exact readUnsigned?_digits hbehind (hdigits hds) hread
    · rw [readNumber?.eq_def] at hread
      split at hread
      · next heq =>
        cases heq
        exact absurd (hdigits hbegins '-' List.mem_cons_self) (by decide)
      · exact readUnsigned?_digits hbehind (hdigits hbegins) hread

end Behind

/-! ## Values that break off -/

/-- The texts of items and the closing bracket, without what stands in front of the first item. -/
def printedItems : List Json → List Char
  | [] => []
  | item :: rest => print item ++ printItems rest

/-- The texts of fields and the closing brace, without what stands in front of the first field. -/
def printedFields : List (String × Json) → List Char
  | [] => []
  | (name, value) :: rest => printString name ++ ':' :: (print value ++ printFields rest)

theorem printItems_cutOff {items : List Json} {text : List Char}
    (h : CutOff text (printItems items)) :
    text = [] ∨ ∃ next, text = ',' :: next ∧ CutOff next (printedItems items) := by
  cases items with
  | nil =>
    refine (cutOff_cons.1 h).imp_right fun ⟨_, _, hmore⟩ => ?_
    exact absurd hmore not_cutOff_nil
  | cons item rest => exact cutOff_cons.1 h

theorem printFields_cutOff {fields : List (String × Json)} {text : List Char}
    (h : CutOff text (printFields fields)) :
    text = [] ∨ ∃ next, text = ',' :: next ∧ CutOff next (printedFields fields) := by
  cases fields with
  | nil =>
    refine (cutOff_cons.1 h).imp_right fun ⟨_, _, hmore⟩ => ?_
    exact absurd hmore not_cutOff_nil
  | cons field rest =>
    have htext : printFields (field :: rest) = ',' :: printedFields (field :: rest) := by
      simp [printFields, printedFields]
    exact cutOff_cons.1 (htext ▸ h)

theorem print_front {j : Json} (h : isWhole j = true) :
    ∃ c cs, print j = c :: cs ∧ isBlank c = false ∧ c ≠ ']' := by
  cases j with
  | null => exact ⟨_, _, rfl, by decide, by decide⟩
  | bool b => cases b <;> exact ⟨_, _, rfl, by decide, by decide⟩
  | number n =>
    obtain ⟨c, cs, hc, hfirst⟩ := printNumber_head h
    refine ⟨c, cs, hc, isBlank_of_digit hfirst, ?_⟩
    rintro rfl
    exact absurd hfirst (by decide)
  | string s => exact ⟨_, _, rfl, by decide, by decide⟩
  | array items => cases items <;> exact ⟨_, _, rfl, by decide, by decide⟩
  | object fields =>
    rcases fields with _ | ⟨⟨name, value⟩, rest⟩ <;> exact ⟨_, _, rfl, by decide, by decide⟩

theorem ended_comma (rest : List Char) : Ended (',' :: rest) := by
  rintro c ⟨⟩
  decide

section Reading

variable {care : Care} {fuel depth : Nat} {cs rest : List Char}

theorem scan?_open_items (hskip : skipBlank cs = cs) (hfront : ∀ r, cs ≠ ']' :: r)
    (hitems : scanItems? care fuel (depth - 1) cs = none) :
    scan? care (fuel + 1) depth ('[' :: cs) = none := by
  rw [scan?, skipBlank_of_front (by decide)]
  simp [hskip, hitems]

theorem scan?_open_fields (hskip : skipBlank cs = cs) (hfront : ∀ r, cs ≠ '\x7d' :: r)
    (hfields : scanFields? care fuel (depth - 1) cs = none) :
    scan? care (fuel + 1) depth ('\x7b' :: cs) = none := by
  rw [scan?, skipBlank_of_front (by decide)]
  simp [hskip, hfields]

theorem scanItems?_stray
    (h : ∀ {item rest}, scan? care fuel depth cs = some (item, rest) → Stray rest) :
    scanItems? care (fuel + 1) depth cs = none := by
  rw [scanItems?]
  split
  · rfl
  · next item rest hread =>
    split
    · next heq => exact absurd heq ((h hread).not_front (by decide))
    · next heq => exact absurd heq ((h hread).not_front (by decide))
    · rfl

theorem scanItems?_comma {next : List Char}
    (h : ∀ {item rest}, scan? care fuel depth cs = some (item, rest) → rest = ',' :: next)
    (hnext : scanItems? care fuel depth next = none) :
    scanItems? care (fuel + 1) depth cs = none := by
  rw [scanItems?]
  split
  · rfl
  · next item rest hread => simp [h hread, skipBlank_of_front (c := ',') rfl, hnext]

theorem scanFields?_stray_name
    (h : ∀ {name rest}, readString? care cs.length cs = some (name, rest) → Stray rest) :
    scanFields? care (fuel + 1) depth ('"' :: cs) = none := by
  rw [scanFields?, skipBlank_of_front (by decide)]
  simp only
  split
  · rfl
  · next name rest hread =>
    split
    · next heq => exact absurd heq ((h hread).not_front (by decide))
    · rfl

theorem scanFields?_stray_value {name : String} {value : List Char} (hname : Names name cs value)
    (h : ∀ {j rest}, scan? care fuel depth value = some (j, rest) → Stray rest) :
    scanFields? care (fuel + 1) depth cs = none := by
  obtain ⟨r, tail, hquote, hread, hcolon⟩ := hname.reads
  rw [scanFields?, hquote]
  simp only [hread, hcolon]
  split
  · rfl
  · next j rest hvalue =>
    split
    · next heq => exact absurd heq ((h hvalue).not_front (by decide))
    · next heq => exact absurd heq ((h hvalue).not_front (by decide))
    · rfl

theorem scanFields?_comma {name : String} {value next : List Char} (hname : Names name cs value)
    (h : ∀ {j rest}, scan? care fuel depth value = some (j, rest) → rest = ',' :: next)
    (hnext : scanFields? care fuel depth next = none) :
    scanFields? care (fuel + 1) depth cs = none := by
  obtain ⟨r, tail, hquote, hread, hcolon⟩ := hname.reads
  rw [scanFields?, hquote]
  simp only [hread, hcolon]
  split
  · rfl
  · next j rest hvalue => simp [h hvalue, skipBlank_of_front (c := ',') rfl, hnext]

end Reading

section Behind

variable {behind : List Char} (hbehind : Foreign behind) {fuel depth : Nat}
include hbehind

theorem scanItems?_foreign : scanItems? .strict fuel depth behind = none := by
  cases fuel with
  | zero => rfl
  | succ fuel => exact scanItems?_stray hbehind.value

theorem scanFields?_foreign : scanFields? .strict fuel depth behind = none := by
  cases fuel with
  | zero => rfl
  | succ fuel =>
    rw [scanFields?, hbehind.skipBlank]
    rcases hbehind.cases with rfl | ⟨more, rfl⟩ <;> rfl

theorem front_cutOff {text whole : List Char} {c : Char} (h : CutOff text (c :: whole))
    (hc : isBlank c = false) : skipBlank (text ++ behind) = text ++ behind ∧
      ∀ d r, text ++ behind = d :: r → d = c ∨ d = '\x7b' := by
  rcases cutOff_cons.1 h with rfl | ⟨more, rfl, -⟩
  · refine ⟨hbehind.skipBlank, ?_⟩
    rintro d r rfl
    exact .inr (hbehind.front d rfl)
  · refine ⟨skipBlank_of_front hc _, ?_⟩
    rintro d r ⟨⟩
    exact .inl rfl

/-- A word that breaks off is not read, where its first character is read as the word's. -/
theorem scan?_word_cutOff {first : Char} {tail : List Char} {value : Json}
    (hword : ∀ cs, scan? .strict fuel depth (first :: cs) = readWord? tail value cs)
    (htail : '\x7b' ∉ tail) {text : List Char} (h : CutOff text (first :: tail)) (hne : text ≠ []) :
    scan? .strict fuel depth (text ++ behind) = none := by
  obtain ⟨more, rfl, hcut⟩ := (cutOff_cons.1 h).resolve_left hne
  rw [List.cons_append, hword, readWord?_cutOff hbehind hcut htail]

/-- An array that breaks off is not read if its items are not. -/
theorem scan?_array_cutOff {items : List Json} (hwhole : itemsWhole items = true)
    (hitems : ∀ {text}, CutOff text (printedItems items) →
      ∀ {fuel depth}, scanItems? .strict fuel depth (text ++ behind) = none)
    {text : List Char} (h : CutOff text (print (.array items))) (hne : text ≠ []) :
    scan? .strict fuel depth (text ++ behind) = none := by
  obtain ⟨c, text, rfl⟩ := List.exists_cons_of_ne_nil hne
  cases fuel with
  | zero => rfl
  | succ fuel =>
    cases items with
    | nil =>
      obtain ⟨rfl, hcut⟩ := CutOff.tail h
      rcases cutOff_cons.1 hcut with rfl | ⟨_, -, hmore⟩
      · refine scan?_open_items hbehind.skipBlank ?_ (scanItems?_foreign hbehind)
        rintro r rfl
        exact absurd (hbehind.front _ rfl) (by decide)
      · exact absurd hmore not_cutOff_nil
    | cons item rest =>
      have hitem : CutOff (c :: text) ('[' :: printedItems (item :: rest)) := h
      obtain ⟨rfl, hcut⟩ := hitem.tail
      obtain ⟨c, cs, hc, hblank, hbracket⟩ := print_front (Bool.and_eq_true_iff.1 hwhole).1
      have hfront := hcut
      rw [printedItems, hc, List.cons_append] at hfront
      obtain ⟨hskip, hfirst⟩ := front_cutOff hbehind hfront hblank
      refine scan?_open_items hskip (fun r heq => ?_) (hitems hcut)
      rcases hfirst _ _ heq with rfl | hbrace
      · exact hbracket rfl
      · exact absurd hbrace (by decide)

theorem scan?_object_cutOff {fields : List (String × Json)}
    (hfields : ∀ {text}, CutOff text (printedFields fields) →
      ∀ {fuel depth}, scanFields? .strict fuel depth (text ++ behind) = none)
    {text : List Char} (h : CutOff text (print (.object fields))) (hne : text ≠ []) :
    scan? .strict fuel depth (text ++ behind) = none := by
  obtain ⟨c, text, rfl⟩ := List.exists_cons_of_ne_nil hne
  cases fuel with
  | zero => rfl
  | succ fuel =>
    cases fields with
    | nil =>
      obtain ⟨rfl, hcut⟩ := CutOff.tail h
      rcases cutOff_cons.1 hcut with rfl | ⟨_, -, hmore⟩
      · refine scan?_open_fields hbehind.skipBlank ?_ (scanFields?_foreign hbehind)
        rintro r rfl
        exact absurd (hbehind.front _ rfl) (by decide)
      · exact absurd hmore not_cutOff_nil
    | cons field rest =>
      obtain ⟨name, value⟩ := field
      have htext : print (.object ((name, value) :: rest)) =
          '\x7b' :: printedFields ((name, value) :: rest) := by
        simp [print, printedFields]
      rw [htext] at h
      obtain ⟨rfl, hcut⟩ := h.tail
      obtain ⟨hskip, hfirst⟩ := front_cutOff (c := '"') hbehind hcut (by decide)
      refine scan?_open_fields hskip (fun r heq => ?_) (hfields hcut)
      rcases hfirst _ _ heq with hquote | hbrace
      · exact absurd hquote (by decide)
      · exact absurd hbrace (by decide)

mutual

/-- A value that breaks off is not read past a foreign text. -/
theorem scan?_cutOff : ∀ (j : Json), isWhole j = true → ∀ {text : List Char},
    CutOff text (print j) → ∀ {fuel depth : Nat} {v : Json} {rest : List Char},
      scan? .strict fuel depth (text ++ behind) = some (v, rest) → Stray rest
  | _, _, [], _, _, _, _, _, hread => hbehind.value hread
  | j, _, _ :: _, _, 0, _, _, _, hread => by simp [scan?] at hread
  | .null, _, c :: text, h, fuel + 1, depth, v, rest, hread => by
    have hword (cs : List Char) : scan? .strict (fuel + 1) depth ('n' :: cs) =
        readWord? "ull".toList .null cs := by
      rw [scan?, skipBlank_of_front (by decide)]
      rfl
    rw [scan?_word_cutOff hbehind hword (by decide) h (List.cons_ne_nil c text)] at hread
    cases hread
  | .bool true, _, c :: text, h, fuel + 1, depth, v, rest, hread => by
    have hword (cs : List Char) : scan? .strict (fuel + 1) depth ('t' :: cs) =
        readWord? "rue".toList (.bool true) cs := by
      rw [scan?, skipBlank_of_front (by decide)]
      rfl
    rw [scan?_word_cutOff hbehind hword (by decide) h (List.cons_ne_nil c text)] at hread
    cases hread
  | .bool false, _, c :: text, h, fuel + 1, depth, v, rest, hread => by
    have hword (cs : List Char) : scan? .strict (fuel + 1) depth ('f' :: cs) =
        readWord? "alse".toList (.bool false) cs := by
      rw [scan?, skipBlank_of_front (by decide)]
      rfl
    rw [scan?_word_cutOff hbehind hword (by decide) h (List.cons_ne_nil c text)] at hread
    cases hread
  | .number n, hwhole, c :: text, h, fuel + 1, depth, v, rest, hread => by
    obtain ⟨d, ds, hd, hfirst⟩ := printNumber_head hwhole
    have hcut := h
    rw [print, hd] at hcut
    obtain ⟨rfl, -⟩ := hcut.tail
    rw [List.cons_append, scan?_of_digit (skipBlank_of_front (isBlank_of_digit hfirst) _) hfirst]
      at hread
    obtain ⟨⟨m, left⟩, hnumber, hresult⟩ := Option.map_eq_some_iff.1 hread
    cases hresult
    rw [readNumber?_cutOff hbehind hwhole h (List.cons_ne_nil _ _) hnumber]
    exact hbehind.stray
  | .string s, _, c :: text, h, fuel + 1, depth, v, rest, hread => by
    obtain ⟨rfl, hcut⟩ := CutOff.tail h
    rw [List.cons_append, scan?, skipBlank_of_front (by decide)] at hread
    simp only at hread
    obtain ⟨⟨s, left⟩, hstring, hresult⟩ := Option.map_eq_some_iff.1 hread
    cases hresult
    exact readString?_cutOff hbehind _ hcut hstring
  | .array items, hwhole, c :: text, h, fuel + 1, depth, v, rest, hread => by
    rw [scan?_array_cutOff hbehind hwhole (scanItems?_cutOff items hwhole) h
      (List.cons_ne_nil c text)] at hread
    cases hread
  | .object fields, hwhole, c :: text, h, fuel + 1, depth, v, rest, hread => by
    rw [scan?_object_cutOff hbehind (scanFields?_cutOff fields hwhole) h
      (List.cons_ne_nil c text)] at hread
    cases hread

theorem scanItems?_cutOff : ∀ (items : List Json), itemsWhole items = true → ∀ {text : List Char},
    CutOff text (printedItems items) → ∀ {fuel depth : Nat},
      scanItems? .strict fuel depth (text ++ behind) = none
  | [], _, _, h, _, _ => absurd h not_cutOff_nil
  | item :: items, hwhole, text, h, 0, depth => rfl
  | item :: items, hwhole, text, h, fuel + 1, depth => by
    obtain ⟨hitem, hitems⟩ := Bool.and_eq_true_iff.1 hwhole
    rcases h.append with hcut | ⟨more, rfl, hcut⟩
    -- the text breaks off within the item
    · exact scanItems?_stray fun hread => scan?_cutOff item hitem hcut hread
    rw [List.append_assoc]
    rcases printItems_cutOff hcut with rfl | ⟨next, rfl, hnext⟩
    -- behind the item
    · exact scanItems?_stray fun hread =>
        rest_of_scan?_print hitem hbehind.ended hread ▸ hbehind.stray
    -- or in one of the next items
    · exact scanItems?_comma (fun hread => rest_of_scan?_print hitem (ended_comma _) hread)
        (scanItems?_cutOff items hitems hnext)

theorem scanFields?_cutOff : ∀ (fields : List (String × Json)), fieldsWhole fields = true →
    ∀ {text : List Char}, CutOff text (printedFields fields) → ∀ {fuel depth : Nat},
      scanFields? .strict fuel depth (text ++ behind) = none
  | [], _, _, h, _, _ => absurd h not_cutOff_nil
  | (name, value) :: fields, hwhole, text, h, 0, depth => rfl
  | (name, value) :: fields, hwhole, text, h, fuel + 1, depth => by
    obtain ⟨hvalue, hfields⟩ := Bool.and_eq_true_iff.1 hwhole
    rcases h.append with hcut | ⟨more, rfl, hcut⟩
    -- the text breaks off within the name
    · cases text with
      | nil => exact scanFields?_foreign hbehind
      | cons c text =>
        obtain ⟨rfl, hname⟩ := CutOff.tail hcut
        exact scanFields?_stray_name (readString?_cutOff hbehind _ hname)
    rcases cutOff_cons.1 hcut with rfl | ⟨more, rfl, hmore⟩
    -- behind the name
    · have hlength := length_le_encoded name.toList
      have htext : printString name ++ [] ++ behind =
          '"' :: (name.toList.flatMap encodeChar ++ '"' :: behind) := by
        simp [printString]
      rw [htext]
      refine scanFields?_stray_name fun hname => ?_
      rw [readString?_encoded .strict name.toList behind (by rw [List.length_append]; omega)] at hname
      cases hname
      exact hbehind.stray
    have hname := names_printed name (more ++ behind)
    rw [List.append_assoc, List.cons_append]
    rcases hmore.append with hcut | ⟨more, rfl, hend⟩
    -- within the value
    · exact scanFields?_stray_value hname fun hread => scan?_cutOff value hvalue hcut hread
    rw [List.append_assoc] at hname ⊢
    rcases printFields_cutOff hend with rfl | ⟨next, rfl, hnext⟩
    -- behind the value
    · exact scanFields?_stray_value hname fun hread =>
        rest_of_scan?_print hvalue hbehind.ended hread ▸ hbehind.stray
    -- or in one of the next fields
    · exact scanFields?_comma hname (fun hread => rest_of_scan?_print hvalue (ended_comma _) hread)
        (scanFields?_cutOff fields hfields hnext)

end

end Behind

/-! ## Objects that are glued together -/

/-- `Piece text`: an object's text, whole or broken off, of which something is left. The object's
first name starts with a character that stands nowhere outside of strings. -/
structure Piece (text : List Char) : Prop where
  nonempty : text ≠ []
  source : ∃ (fields : List (String × Json)) (tail : List Char), fieldsWhole fields = true ∧
    print (.object fields) = '\x7b' :: '"' :: tail ∧ Stray tail ∧ text <+: print (.object fields)

section Glued

variable {text behind : List Char}

/-- A piece with a foreign text behind it is not read at all, or read up to its end. -/
theorem Piece.rest_of_scan? (h : Piece text) (hbehind : Foreign behind) {fuel depth : Nat} {v : Json}
    {rest : List Char} (hread : scan? .strict fuel depth (text ++ behind) = some (v, rest)) :
    rest = behind := by
  obtain ⟨fields, tail, hwhole, -, -, hbegins⟩ := h.source
  by_cases htext : text = print (.object fields)
  · subst htext
    exact rest_of_scan?_print (j := .object fields) hwhole hbehind.ended hread
  · rw [scan?_object_cutOff hbehind (scanFields?_cutOff hbehind fields hwhole) ⟨hbegins, htext⟩
      h.nonempty] at hread
    cases hread

/-- Behind a value that is broken off, a piece is as foreign as what stands behind the piece. -/
theorem Piece.foreign (h : Piece text) (hbehind : Foreign behind) : Foreign (text ++ behind) := by
  obtain ⟨fields, tail, -, hprint, hstray, hbegins⟩ := h.source
  obtain ⟨c, text, rfl⟩ := List.exists_cons_of_ne_nil h.nonempty
  rw [hprint] at hbegins
  obtain ⟨rfl, hquote⟩ := List.cons_prefix_cons.1 hbegins
  refine ⟨by simp, @fun fuel depth v rest hread => ?_, @fun fuel cs rest hread => ?_⟩
  · rw [h.rest_of_scan? hbehind hread]
    exact hbehind.stray
  · obtain ⟨less, d, more, s, hchar, hmore⟩ := (readString?_some hread).resolve_left (by simp)
    cases hchar
    rcases List.prefix_cons_iff.1 hquote with rfl | ⟨name, rfl, hname⟩
    · exact hbehind.string hmore
    -- the quote in front of the first name closes the string
    · cases (readString?_quote .strict less (name ++ behind)).symm.trans hmore
      cases name with
      | nil => exact hbehind.stray
      | cons d name =>
        obtain ⟨more, rfl⟩ := hname
        exact hstray

/-- Pieces that are glued together are foreign behind a value that is broken off. -/
theorem foreign_flatten {texts : List (List Char)} (h : ∀ text ∈ texts, Piece text) :
    Foreign texts.flatten := by
  induction texts with
  | nil => exact foreign_nil
  | cons text texts ih =>
    obtain ⟨htext, htexts⟩ := List.forall_mem_cons.1 h
    exact htext.foreign (ih htexts)

/-- Two or more pieces that are glued together are not the text of a value. -/
theorem scanAll?_glued {texts : List (List Char)} (h : ∀ text ∈ texts, Piece text)
    (hmany : 1 < texts.length) : scanAll? texts.flatten = none := by
  obtain ⟨text, next, texts, rfl⟩ : ∃ text next more, texts = text :: next :: more := by
    match texts, hmany with
    | text :: next :: more, _ => exact ⟨text, next, more, rfl⟩
  obtain ⟨htext, hmore⟩ := List.forall_mem_cons.1 h
  have hbehind := foreign_flatten hmore
  rw [scanAll?]
  split
  · next j rest hread =>
    have hrest := htext.rest_of_scan? hbehind hread
    have hnext := (hmore next List.mem_cons_self).nonempty
    rw [hrest, hbehind.skipBlank, if_neg]
    simp [hnext]
  · rfl

end Glued

end HealthAgent.Json
