import HealthAgent.Proofs.Json.Scalar
/-!
# Texts that spell a JSON value

`Spells j cs` says that `cs` is a text of `j` with any blanks in front of its parts. The two halves
of a round trip meet there: both printers write texts that spell their value, and the reader gives
back the value of a text that spells it. A floating-point number has no spelling, since it may be
read as a neighbour.

The reader is followed through the text by recursion on the value, one step for each kind of front
that it can meet. Its fuel is enough because every step leaves a shorter text, and its depth because
a text is at least as long as its value is deep.

Results:
* `scan?_spelled`: a spelled value is read back, whatever stands behind it.
* `scanAll?_spelled`: a text that spells a value of at most 127 levels is read as that value.
* `passOver?_spelled`: a spelled value is passed over up to its end, however deep it is.
* `spells_print`, `spells_printIndented`: both printed forms of a value spell it.
* `scanAll?_compress`: a value of whole numbers is read back from its text.
-/
namespace HealthAgent.Json
open HealthAgent.Number

/-! ## Values -/

mutual

def nesting : Json → Nat
  | .array items => itemsNesting items + 1
  | .object fields => fieldsNesting fields + 1
  | _ => 0

def itemsNesting : List Json → Nat
  | [] => 0
  | item :: rest => max (nesting item) (itemsNesting rest)

def fieldsNesting : List (String × Json) → Nat
  | [] => 0
  | (_, value) :: rest => max (nesting value) (fieldsNesting rest)

end

/-- `Names name cs value`: behind a name and its colon, the text `cs` goes on with `value`. -/
def Names (name : String) (cs value : List Char) : Prop :=
  ∃ tail, skipBlank cs = printString name ++ tail ∧ skipBlank tail = ':' :: value

mutual

/-- `Spells j cs`: `cs` is a text of `j`, with blanks in front of any of its parts. -/
def Spells : Json → List Char → Prop
  | .null, cs => skipBlank cs = print .null
  | .bool b, cs => skipBlank cs = print (.bool b)
  | .number n, cs => n.isWhole = true ∧ skipBlank cs = printNumber n
  | .string s, cs => skipBlank cs = printString s
  | .array items, cs => ∃ first, skipBlank cs = '[' :: first ∧
      (items = [] ∧ skipBlank first = [']'] ∨ SpellsItems items first)
  | .object fields, cs => ∃ first, skipBlank cs = '\x7b' :: first ∧
      (fields = [] ∧ skipBlank first = ['\x7d'] ∨ SpellsFields fields first)

/-- A text of one or more items and the closing bracket. -/
def SpellsItems : List Json → List Char → Prop
  | [], _ => False
  | item :: rest, cs => ∃ text more, cs = text ++ more ∧ Spells item text ∧
      (rest = [] ∧ skipBlank more = [']'] ∨
        ∃ next, skipBlank more = ',' :: next ∧ SpellsItems rest next)

/-- A text of one or more fields and the closing brace. -/
def SpellsFields : List (String × Json) → List Char → Prop
  | [], _ => False
  | (name, value) :: rest, cs => ∃ text more, Names name cs (text ++ more) ∧ Spells value text ∧
      (rest = [] ∧ skipBlank more = ['\x7d'] ∨
        ∃ next, skipBlank more = ',' :: next ∧ SpellsFields rest next)

end

theorem Spells.congr {j : Json} {cs cs' : List Char} (h : Spells j cs)
    (hcs : skipBlank cs' = skipBlank cs) : Spells j cs' := by
  cases j <;> simpa only [Spells, hcs] using h

/-- A value's text starts with a character that closes nothing. -/
theorem Spells.front {j : Json} {cs : List Char} (h : Spells j cs) :
    ∃ c rest, skipBlank cs = c :: rest ∧ c ≠ ']' := by
  cases j with
  | null => exact ⟨_, _, h, by decide⟩
  | bool b => cases b <;> exact ⟨_, _, h, by decide⟩
  | number n =>
    obtain ⟨hwhole, h⟩ := h
    obtain ⟨c, cs', hc, hfirst⟩ := printNumber_head hwhole
    refine ⟨c, cs', h.trans hc, ?_⟩
    rintro rfl
    revert hfirst
    decide
  | string s => exact ⟨_, _, h, by decide⟩
  | array items =>
    obtain ⟨first, h, -⟩ := h
    exact ⟨_, _, h, by decide⟩
  | object fields =>
    obtain ⟨first, h, -⟩ := h
    exact ⟨_, _, h, by decide⟩

theorem Names.append {name : String} {cs value : List Char} (h : Names name cs value)
    (rest : List Char) : Names name (cs ++ rest) (value ++ rest) := by
  obtain ⟨tail, hname, hcolon⟩ := h
  refine ⟨tail ++ rest, ?_, ?_⟩
  · simpa [printString] using skipBlank_append hname rest
  · exact skipBlank_append hcolon rest

theorem Names.reads {name : String} {cs value : List Char} (h : Names name cs value) :
    ∃ r tail, skipBlank cs = '"' :: r ∧
      (∀ care, readString? care r.length r = some (name.toList, tail)) ∧
      skipBlank tail = ':' :: value := by
  obtain ⟨tail, hname, hcolon⟩ := h
  refine ⟨name.toList.flatMap encodeChar ++ '"' :: tail, tail, ?_, fun care => ?_, hcolon⟩
  · simp [hname, printString]
  · have := length_le_encoded name.toList
    exact readString?_encoded care _ _ (by rw [List.length_append]; omega)

theorem Names.length {name : String} {cs value : List Char} (h : Names name cs value) :
    value.length < cs.length := by
  obtain ⟨tail, hname, hcolon⟩ := h
  have hquote := length_lt_of_skipBlank (c := '"') hname
  have hbehind := length_lt_of_skipBlank hcolon
  rw [List.append_eq, List.length_append] at hquote
  omega

theorem SpellsItems.front {items : List Json} {cs : List Char} (h : SpellsItems items cs) :
    ∃ c rest, skipBlank cs = c :: rest ∧ c ≠ ']' := by
  cases items with
  | nil => exact h.elim
  | cons item items =>
    obtain ⟨text, more, rfl, hitem, -⟩ := h
    obtain ⟨c, rest, hc, hne⟩ := hitem.front
    exact ⟨c, rest ++ more, skipBlank_append hc more, hne⟩

theorem SpellsItems.skipped {items : List Json} {cs : List Char} (h : SpellsItems items cs) :
    SpellsItems items (skipBlank cs) := by
  cases items with
  | nil => exact h.elim
  | cons item items =>
    obtain ⟨text, more, rfl, hitem, hmore⟩ := h
    obtain ⟨c, rest, hc, -⟩ := hitem.front
    refine ⟨skipBlank text, more, ?_, hitem.congr (skipBlank_skipBlank text), hmore⟩
    rw [skipBlank_append hc, hc, List.cons_append]

theorem SpellsFields.front {fields : List (String × Json)} {cs : List Char}
    (h : SpellsFields fields cs) : ∃ rest, skipBlank cs = '"' :: rest := by
  cases fields with
  | nil => exact h.elim
  | cons field fields =>
    obtain ⟨text, more, ⟨tail, hname, -⟩, -⟩ := h
    exact ⟨_, hname⟩

theorem SpellsFields.skipped {fields : List (String × Json)} {cs : List Char}
    (h : SpellsFields fields cs) : SpellsFields fields (skipBlank cs) := by
  cases fields with
  | nil => exact h.elim
  | cons field fields =>
    obtain ⟨text, more, ⟨tail, hname, hcolon⟩, hvalue, hmore⟩ := h
    exact ⟨text, more, ⟨tail, by rw [skipBlank_skipBlank, hname], hcolon⟩, hvalue, hmore⟩

/-! ## Reading step by step -/

section Reading

variable {care : Care} {fuel depth : Nat} {cs rest : List Char}

theorem scan?_string {s : String}
    (h : skipBlank cs = '"' :: (s.toList.flatMap encodeChar ++ '"' :: rest)) :
    scan? care (fuel + 1) depth cs = some (.string s, rest) := by
  have hlength := length_le_encoded s.toList
  rw [scan?, h]
  simp only
  rw [readString?_encoded care _ _ (by rw [List.length_append]; omega)]
  simp

theorem scan?_of_digit {c : Char} {tail : List Char} (h : skipBlank cs = c :: tail)
    (hc : c = '-' ∨ c.isDigit = true) : scan? care (fuel + 1) depth cs =
      (readNumber? (c :: tail)).map fun (n, rest) => (.number n, rest) := by
  rw [scan?, h]
  split
  iterate 6
    rename_i heq
    cases heq
    exact absurd hc (by decide)
  rfl

theorem scan?_number {n : Number} (hn : n.isWhole = true) (hr : Ended rest)
    (h : skipBlank cs = printNumber n ++ rest) :
    scan? care (fuel + 1) depth cs = some (.number n, rest) := by
  obtain ⟨c, ds, hc, hfirst⟩ := printNumber_head hn
  have hread := readNumber?_printNumber hn hr
  rw [hc, List.cons_append] at hread h
  rw [scan?_of_digit h hfirst, hread]
  rfl

theorem scan?_array {first : List Char} {items : List Json} (hopen : skipBlank cs = '[' :: first)
    (hdepth : depth ≠ 0) (hfront : ∀ r, skipBlank first ≠ ']' :: r)
    (hitems : scanItems? care fuel (depth - 1) (skipBlank first) = some (items, rest)) :
    scan? care (fuel + 1) depth cs = some (.array items, rest) := by
  rw [scan?, hopen]
  simp [hdepth, hitems]

theorem scan?_object {first : List Char} {fields : List (String × Json)}
    (hopen : skipBlank cs = '\x7b' :: first) (hdepth : depth ≠ 0)
    (hfront : ∀ r, skipBlank first ≠ '\x7d' :: r)
    (hfields : scanFields? care fuel (depth - 1) (skipBlank first) = some (fields, rest)) :
    scan? care (fuel + 1) depth cs = some (.object fields, rest) := by
  rw [scan?, hopen]
  simp [hdepth, hfields]

theorem scanItems?_last {item : Json} {more : List Char}
    (hitem : scan? care fuel depth cs = some (item, more)) (h : skipBlank more = ']' :: rest) :
    scanItems? care (fuel + 1) depth cs = some ([item], rest) := by
  simp [scanItems?, hitem, h]

theorem scanItems?_next {item : Json} {items : List Json} {more next : List Char}
    (hitem : scan? care fuel depth cs = some (item, more)) (h : skipBlank more = ',' :: next)
    (hnext : scanItems? care fuel depth next = some (items, rest)) :
    scanItems? care (fuel + 1) depth cs = some (item :: items, rest) := by
  simp [scanItems?, hitem, h, hnext]

theorem scanFields?_last {name : String} {value more : List Char} {j : Json}
    (hname : Names name cs value) (hvalue : scan? care fuel depth value = some (j, more))
    (h : skipBlank more = '\x7d' :: rest) :
    scanFields? care (fuel + 1) depth cs = some ([(name, j)], rest) := by
  obtain ⟨r, tail, hquote, hread, hcolon⟩ := hname.reads
  simp [scanFields?, hquote, hread, hcolon, hvalue, h]

theorem scanFields?_next {name : String} {value more next : List Char} {j : Json}
    {fields : List (String × Json)} (hname : Names name cs value)
    (hvalue : scan? care fuel depth value = some (j, more)) (h : skipBlank more = ',' :: next)
    (hnext : scanFields? care fuel depth next = some (fields, rest)) :
    scanFields? care (fuel + 1) depth cs = some ((name, j) :: fields, rest) := by
  obtain ⟨r, tail, hquote, hread, hcolon⟩ := hname.reads
  simp [scanFields?, hquote, hread, hcolon, hvalue, h, hnext]

end Reading

mutual

theorem scan?_spelled (care : Care) : ∀ (j : Json) {cs : List Char}, Spells j cs →
    ∀ {fuel depth : Nat}, cs.length ≤ fuel → nesting j ≤ depth → ∀ {rest : List Char}, Ended rest →
      scan? care fuel depth (cs ++ rest) = some (j, rest)
  | .null, cs, h, fuel + 1, depth, _, _, rest, _ => by
    rw [scan?, skipBlank_append (c := 'n') h]
    rfl
  | .bool true, cs, h, fuel + 1, depth, _, _, rest, _ => by
    rw [scan?, skipBlank_append (c := 't') h]
    rfl
  | .bool false, cs, h, fuel + 1, depth, _, _, rest, _ => by
    rw [scan?, skipBlank_append (c := 'f') h]
    rfl
  | .number n, cs, ⟨hwhole, h⟩, fuel + 1, depth, _, _, rest, hr => by
    obtain ⟨c, ds, hc, -⟩ := printNumber_head hwhole
    refine scan?_number hwhole hr ?_
    rw [skipBlank_append (h.trans hc), hc, List.cons_append]
  | .string s, cs, h, fuel + 1, depth, _, _, rest, _ => by
    refine scan?_string ?_
    rw [skipBlank_append (c := '"') h]
    simp
  | .array items, cs, ⟨first, hopen, hitems⟩, fuel + 1, depth, hf, hd, rest, _ => by
    have hlength := length_lt_of_skipBlank hopen
    have hopen := skipBlank_append hopen rest
    simp only [nesting] at hd
    rcases hitems with ⟨rfl, hclose⟩ | hitems
    · rw [scan?, hopen]
      simp only [show depth ≠ 0 by omega, if_false, skipBlank_append hclose rest]
      rfl
    · obtain ⟨c, ds, hc, hne⟩ := hitems.front
      have hshort := length_skipBlank_le first
      have hread : scanItems? care fuel (depth - 1) (skipBlank first ++ rest) =
          some (items, rest) :=
        scanItems?_spelled care items hitems.skipped (by omega) (by omega) rest
      rw [hc, List.cons_append, ← skipBlank_append hc rest] at hread
      -- what follows the bracket is not taken for an empty array
      refine scan?_array hopen (by omega) (fun r hr => ?_) hread
      rw [skipBlank_append hc] at hr
      cases hr
      exact hne rfl
  | .object fields, cs, ⟨first, hopen, hfields⟩, fuel + 1, depth, hf, hd, rest, _ => by
    have hlength := length_lt_of_skipBlank hopen
    have hopen := skipBlank_append hopen rest
    simp only [nesting] at hd
    rcases hfields with ⟨rfl, hclose⟩ | hfields
    · rw [scan?, hopen]
      simp only [show depth ≠ 0 by omega, if_false, skipBlank_append hclose rest]
      rfl
    · obtain ⟨ds, hc⟩ := hfields.front
      have hshort := length_skipBlank_le first
      have hread : scanFields? care fuel (depth - 1) (skipBlank first ++ rest) =
          some (fields, rest) :=
        scanFields?_spelled care fields hfields.skipped (by omega) (by omega) rest
      rw [hc, List.cons_append, ← skipBlank_append hc rest] at hread
      refine scan?_object hopen (by omega) (fun r hr => ?_) hread
      rw [skipBlank_append hc] at hr
      cases hr
  | j, cs, h, 0, depth, hf, _, _, _ => by
    obtain ⟨c, ds, hc, -⟩ := h.front
    have := length_lt_of_skipBlank hc
    omega

theorem scanItems?_spelled (care : Care) : ∀ (items : List Json) {cs : List Char},
    SpellsItems items cs → ∀ {fuel depth : Nat}, cs.length ≤ fuel → itemsNesting items ≤ depth →
      ∀ rest, scanItems? care fuel depth (cs ++ rest) = some (items, rest)
  | [], _, h, _, _, _, _, _ => h.elim
  | item :: items, cs, h, fuel, depth, hf, hd, rest => by
    obtain ⟨text, more, rfl, hitem, hmore⟩ := h
    simp only [itemsNesting] at hd
    rw [List.length_append] at hf
    rw [List.append_assoc]
    rcases hmore with ⟨rfl, hclose⟩ | ⟨next, hcomma, hitems⟩
    · have hlength := length_lt_of_skipBlank hclose
      obtain ⟨fuel, rfl⟩ : ∃ k, fuel = k + 1 := ⟨fuel - 1, by omega⟩
      have hend := ended_of_skipBlank hclose (by decide) rest
      exact scanItems?_last (scan?_spelled care item hitem (by omega) (by omega) hend)
        (skipBlank_append hclose rest)
    · have hlength := length_lt_of_skipBlank hcomma
      obtain ⟨fuel, rfl⟩ : ∃ k, fuel = k + 1 := ⟨fuel - 1, by omega⟩
      have hend := ended_of_skipBlank hcomma (by decide) rest
      exact scanItems?_next (scan?_spelled care item hitem (by omega) (by omega) hend)
        (skipBlank_append hcomma rest)
        (scanItems?_spelled care items hitems (by omega) (by omega) rest)

theorem scanFields?_spelled (care : Care) : ∀ (fields : List (String × Json)) {cs : List Char},
    SpellsFields fields cs → ∀ {fuel depth : Nat}, cs.length ≤ fuel → fieldsNesting fields ≤ depth →
      ∀ rest, scanFields? care fuel depth (cs ++ rest) = some (fields, rest)
  | [], _, h, _, _, _, _, _ => h.elim
  | (name, value) :: fields, cs, h, fuel, depth, hf, hd, rest => by
    obtain ⟨text, more, hname, hvalue, hmore⟩ := h
    simp only [fieldsNesting] at hd
    have hshorter := hname.length
    rw [List.length_append] at hshorter
    have hname := hname.append rest
    rw [List.append_assoc] at hname
    obtain ⟨fuel, rfl⟩ : ∃ k, fuel = k + 1 := ⟨fuel - 1, by omega⟩
    rcases hmore with ⟨rfl, hclose⟩ | ⟨next, hcomma, hfields⟩
    · have hend := ended_of_skipBlank hclose (by decide) rest
      exact scanFields?_last hname (scan?_spelled care value hvalue (by omega) (by omega) hend)
        (skipBlank_append hclose rest)
    · have hlength := length_lt_of_skipBlank hcomma
      have hend := ended_of_skipBlank hcomma (by decide) rest
      exact scanFields?_next hname (scan?_spelled care value hvalue (by omega) (by omega) hend)
        (skipBlank_append hcomma rest)
        (scanFields?_spelled care fields hfields (by omega) (by omega) rest)

end

mutual

theorem nesting_le_length : ∀ (j : Json) {cs : List Char}, Spells j cs → nesting j ≤ cs.length
  | .null, _, _ | .bool _, _, _ | .number _, _, _ | .string _, _, _ => Nat.zero_le _
  | .array items, cs, ⟨first, hopen, hitems⟩ => by
    have hlength := length_lt_of_skipBlank hopen
    rw [nesting]
    rcases hitems with ⟨rfl, -⟩ | hitems
    · simp only [itemsNesting]
      omega
    · have := itemsNesting_le_length items hitems
      omega
  | .object fields, cs, ⟨first, hopen, hfields⟩ => by
    have hlength := length_lt_of_skipBlank hopen
    rw [nesting]
    rcases hfields with ⟨rfl, -⟩ | hfields
    · simp only [fieldsNesting]
      omega
    · have := fieldsNesting_le_length fields hfields
      omega

theorem itemsNesting_le_length : ∀ (items : List Json) {cs : List Char}, SpellsItems items cs →
    itemsNesting items ≤ cs.length
  | [], _, h => h.elim
  | item :: items, cs, ⟨text, more, hcs, hitem, hmore⟩ => by
    have hfirst := nesting_le_length item hitem
    simp only [itemsNesting, hcs, List.length_append]
    rcases hmore with ⟨rfl, -⟩ | ⟨next, hcomma, hitems⟩
    · simp only [itemsNesting]
      omega
    · have := itemsNesting_le_length items hitems
      have hlength := length_lt_of_skipBlank hcomma
      omega

theorem fieldsNesting_le_length : ∀ (fields : List (String × Json)) {cs : List Char},
    SpellsFields fields cs → fieldsNesting fields ≤ cs.length
  | [], _, h => h.elim
  | (name, value) :: fields, cs, ⟨text, more, hname, hvalue, hmore⟩ => by
    have hshorter := hname.length
    have hfirst := nesting_le_length value hvalue
    simp only [fieldsNesting]
    rw [List.length_append] at hshorter
    rcases hmore with ⟨rfl, -⟩ | ⟨next, hcomma, hfields⟩
    · simp only [fieldsNesting]
      omega
    · have := fieldsNesting_le_length fields hfields
      have hlength := length_lt_of_skipBlank hcomma
      omega

end

/-- A spelled text is read as its value, unless that is nested too deeply. -/
theorem scanAll?_spelled {j : Json} {cs : List Char} (h : Spells j cs) (hd : nesting j ≤ maxDepth) :
    scanAll? cs = some j := by
  have hread : scan? .strict (2 * cs.length + 2) maxDepth (cs ++ []) = some (j, []) :=
    scan?_spelled .strict j h (by omega) hd ended_nil
  rw [List.append_nil] at hread
  rw [scanAll?, hread]
  rfl

/-- A spelled value is passed over up to its end, however deep it is nested. -/
theorem passOver?_spelled {j : Json} {cs rest : List Char} (h : Spells j cs) (hr : Ended rest) :
    passOver? (cs ++ rest) = some rest := by
  have hdepth := nesting_le_length j h
  rw [passOver?, scan?_spelled .loose j h (by rw [List.length_append]; omega)
    (by rw [List.length_append]; omega) hr]
  rfl

/-! ## Printed texts -/

mutual

/-- Whether every number of a value is a whole number of 64 bits. -/
def isWhole : Json → Bool
  | .number n => n.isWhole
  | .array items => itemsWhole items
  | .object fields => fieldsWhole fields
  | _ => true

def itemsWhole : List Json → Bool
  | [] => true
  | item :: rest => isWhole item && itemsWhole rest

def fieldsWhole : List (String × Json) → Bool
  | [] => true
  | (_, value) :: rest => isWhole value && fieldsWhole rest

end

theorem names_printed (name : String) (value : List Char) :
    Names name (printString name ++ ':' :: value) value :=
  ⟨':' :: value, rfl, rfl⟩

mutual

theorem spells_print : ∀ j, isWhole j = true → Spells j (print j)
  | .null, _ => rfl
  | .bool b, _ => by cases b <;> rfl
  | .number n, h => ⟨h, skipBlank_printNumber h⟩
  | .string s, _ => rfl
  | .array [], _ => ⟨[']'], rfl, .inl ⟨rfl, rfl⟩⟩
  | .array (item :: rest), h => by
    simp only [isWhole, itemsWhole, Bool.and_eq_true] at h
    exact ⟨print item ++ printItems rest, rfl,
      .inr ⟨_, _, rfl, spells_print item h.1, spells_printItems rest h.2⟩⟩
  | .object [], _ => ⟨['\x7d'], rfl, .inl ⟨rfl, rfl⟩⟩
  | .object ((name, value) :: rest), h => by
    simp only [isWhole, fieldsWhole, Bool.and_eq_true] at h
    refine ⟨printString name ++ ':' :: (print value ++ printFields rest), by simp [print]; rfl,
      .inr ⟨_, _, names_printed name _, spells_print value h.1, spells_printFields rest h.2⟩⟩

theorem spells_printItems : ∀ rest, itemsWhole rest = true →
    rest = [] ∧ skipBlank (printItems rest) = [']'] ∨
      ∃ next, skipBlank (printItems rest) = ',' :: next ∧ SpellsItems rest next
  | [], _ => .inl ⟨rfl, rfl⟩
  | item :: rest, h => by
    simp only [itemsWhole, Bool.and_eq_true] at h
    exact .inr ⟨print item ++ printItems rest, rfl,
      _, _, rfl, spells_print item h.1, spells_printItems rest h.2⟩

theorem spells_printFields : ∀ rest, fieldsWhole rest = true →
    rest = [] ∧ skipBlank (printFields rest) = ['\x7d'] ∨
      ∃ next, skipBlank (printFields rest) = ',' :: next ∧ SpellsFields rest next
  | [], _ => .inl ⟨rfl, rfl⟩
  | (name, value) :: rest, h => by
    simp only [fieldsWhole, Bool.and_eq_true] at h
    refine .inr ⟨printString name ++ ':' :: (print value ++ printFields rest), ?_,
      _, _, names_printed name _, spells_print value h.1, spells_printFields rest h.2⟩
    simp [printFields]
    rfl

end

theorem skipBlank_newline (level : Nat) (cs : List Char) :
    skipBlank (newline level ++ cs) = skipBlank cs := by
  have hspaces : ∀ n, skipBlank (List.replicate n ' ' ++ cs) = skipBlank cs := by
    intro n
    induction n with
    | zero => rfl
    | succ n ih => rwa [List.replicate_succ, List.cons_append, skipBlank_cons rfl]
  rw [newline, List.cons_append, skipBlank_cons rfl, hspaces]

theorem names_indented (level : Nat) (name : String) (value : List Char) :
    Names name (newline level ++ (printString name ++ ':' :: value)) value :=
  ⟨':' :: value, skipBlank_newline level _, rfl⟩

mutual

theorem spells_printIndented : ∀ (level : Nat) j, isWhole j = true →
    Spells j (printIndented level j)
  | _, .null, _ => rfl
  | _, .bool b, _ => by cases b <;> rfl
  | _, .number n, h => ⟨h, skipBlank_printNumber h⟩
  | _, .string s, _ => rfl
  | _, .array [], _ => ⟨[']'], rfl, .inl ⟨rfl, rfl⟩⟩
  | level, .array (item :: rest), h => by
    simp only [isWhole, itemsWhole, Bool.and_eq_true] at h
    refine ⟨newline (level + 1) ++ printIndented (level + 1) item ++ indentedItems level rest, rfl,
      .inr ⟨_, _, rfl, ?_, spells_indentedItems level rest h.2⟩⟩
    exact (spells_printIndented (level + 1) item h.1).congr (skipBlank_newline _ _)
  | _, .object [], _ => ⟨['\x7d'], rfl, .inl ⟨rfl, rfl⟩⟩
  | level, .object ((name, value) :: rest), h => by
    simp only [isWhole, fieldsWhole, Bool.and_eq_true] at h
    refine ⟨newline (level + 1) ++ (printString name ++ ':' ::
        (' ' :: printIndented (level + 1) value ++ indentedFields level rest)), ?_,
      .inr ⟨_, _, names_indented _ name _, ?_, spells_indentedFields level rest h.2⟩⟩
    · simp [printIndented]
      rfl
    · exact (spells_printIndented (level + 1) value h.1).congr (skipBlank_cons rfl _)

theorem spells_indentedItems : ∀ (level : Nat) rest, itemsWhole rest = true →
    rest = [] ∧ skipBlank (indentedItems level rest) = [']'] ∨
      ∃ next, skipBlank (indentedItems level rest) = ',' :: next ∧ SpellsItems rest next
  | level, [], _ => .inl ⟨rfl, skipBlank_newline level _⟩
  | level, item :: rest, h => by
    simp only [itemsWhole, Bool.and_eq_true] at h
    refine .inr ⟨newline (level + 1) ++ printIndented (level + 1) item ++ indentedItems level rest,
      rfl, _, _, rfl, ?_, spells_indentedItems level rest h.2⟩
    exact (spells_printIndented (level + 1) item h.1).congr (skipBlank_newline _ _)

theorem spells_indentedFields : ∀ (level : Nat) rest, fieldsWhole rest = true →
    rest = [] ∧ skipBlank (indentedFields level rest) = ['\x7d'] ∨
      ∃ next, skipBlank (indentedFields level rest) = ',' :: next ∧ SpellsFields rest next
  | level, [], _ => .inl ⟨rfl, skipBlank_newline level _⟩
  | level, (name, value) :: rest, h => by
    simp only [fieldsWhole, Bool.and_eq_true] at h
    refine .inr ⟨newline (level + 1) ++ (printString name ++ ':' ::
        (' ' :: printIndented (level + 1) value ++ indentedFields level rest)), ?_,
      _, _, names_indented _ name _, ?_, spells_indentedFields level rest h.2⟩
    · simp [indentedFields]
      rfl
    · exact (spells_printIndented (level + 1) value h.1).congr (skipBlank_cons rfl _)

end

/-- A value of whole numbers is read back from its compact text. -/
theorem scanAll?_compress {j : Json} (h : isWhole j = true) (hd : nesting j ≤ maxDepth) :
    scanAll? j.compress.toList = some j := by
  rw [compress, String.toList_ofList]
  exact scanAll?_spelled (spells_print j h) hd

end HealthAgent.Json
