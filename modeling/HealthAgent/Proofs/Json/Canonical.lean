import HealthAgent.Proofs.Json.Spelling
/-!
# Canonical values and their texts

A value whose objects list their names in ascending order is its own canonical form. Together with
what is known of printed texts, such a value of whole numbers is read back, as a whole text and in
its canonical form, from its compact text. That text is a line: it holds no control characters,
since a string escapes them and nothing else writes any.

Results:
* `canonical_of_sorted`: a sorted value is canonical.
* `parse?_compress`: a sorted value of whole numbers is read back from its compact text.
* `plain_print`: a compact text holds no control characters.
-/
namespace HealthAgent.Json
open HealthAgent.Number

/-! ## Sorted values -/

mutual

/-- Every object of the value lists its names in ascending order. -/
def Sorted : Json → Prop
  | .array items => ItemsSorted items
  | .object fields => fields.Pairwise (·.1 < ·.1) ∧ FieldsSorted fields
  | _ => True

def ItemsSorted : List Json → Prop
  | [] => True
  | item :: rest => Sorted item ∧ ItemsSorted rest

def FieldsSorted : List (String × Json) → Prop
  | [] => True
  | (_, value) :: rest => Sorted value ∧ FieldsSorted rest

end

mutual

theorem canonical_of_sorted : ∀ {j : Json}, Sorted j → canonical j = j
  | .null, _ | .bool _, _ | .number _, _ | .string _, _ => rfl
  | .array items, h => by rw [canonical, canonicalItems_of_sorted h]
  | .object fields, ⟨hnames, hfields⟩ => by
    rw [canonical, canonicalFields_of_sorted hfields, ofDict]
    exact congrArg (Json.object ·.entries) (Dict.ofList_entries ⟨fields, hnames⟩)

theorem canonicalItems_of_sorted : ∀ {items : List Json}, ItemsSorted items →
    canonicalItems items = items
  | [], _ => rfl
  | item :: rest, ⟨hitem, hrest⟩ => by
    rw [canonicalItems, canonical_of_sorted hitem, canonicalItems_of_sorted hrest]

theorem canonicalFields_of_sorted : ∀ {fields : List (String × Json)} {d : Dict Json},
    FieldsSorted fields →
      canonicalFields fields d = fields.foldl (fun d e => d.insert e.1 e.2) d
  | [], _, _ => rfl
  | (name, value) :: rest, d, ⟨hvalue, hrest⟩ => by
    rw [canonicalFields, canonical_of_sorted hvalue, canonicalFields_of_sorted hrest,
      List.foldl_cons]

end

mutual

theorem isFinite_of_isWhole : ∀ {j : Json}, isWhole j = true → isFinite j = true
  | .null, _ | .bool _, _ | .string _, _ => rfl
  | .number n, h => by
    cases n with
    | whole n => rfl
    | float bits => cases h
  | .array items, h => itemsFinite_of_itemsWhole h
  | .object fields, h => fieldsFinite_of_fieldsWhole h

theorem itemsFinite_of_itemsWhole : ∀ {items : List Json}, itemsWhole items = true →
    itemsFinite items = true
  | [], _ => rfl
  | item :: rest, h => by
    obtain ⟨hitem, hrest⟩ := Bool.and_eq_true_iff.1 h
    rw [itemsFinite, isFinite_of_isWhole hitem, itemsFinite_of_itemsWhole hrest, Bool.true_and]

theorem fieldsFinite_of_fieldsWhole : ∀ {fields : List (String × Json)},
    fieldsWhole fields = true → fieldsFinite fields = true
  | [], _ => rfl
  | (_, value) :: rest, h => by
    obtain ⟨hvalue, hrest⟩ := Bool.and_eq_true_iff.1 h
    rw [fieldsFinite, isFinite_of_isWhole hvalue, fieldsFinite_of_fieldsWhole hrest, Bool.true_and]

end

/-- A sorted value of whole numbers is read back from its compact text. -/
theorem parse?_compress {j : Json} (hwhole : isWhole j = true) (hsorted : Sorted j)
    (hd : nesting j ≤ maxDepth) : parse? j.compress = some j := by
  rw [parse?, scanAll?_compress hwhole hd, Option.bind_some, if_pos (isFinite_of_isWhole hwhole),
    canonical_of_sorted hsorted]

/-! ## Plain texts -/

/-- The text holds no control characters. -/
def Plain (cs : List Char) : Prop := ∀ c ∈ cs, 0x20 ≤ c.toNat

instance (cs : List Char) : Decidable (Plain cs) := List.decidableBAll _ cs

theorem plain_append {cs ds : List Char} : Plain (cs ++ ds) ↔ Plain cs ∧ Plain ds :=
  List.forall_mem_append

theorem plain_cons {c : Char} {cs : List Char} : Plain (c :: cs) ↔ 0x20 ≤ c.toNat ∧ Plain cs :=
  List.forall_mem_cons

/-- A plain text holds no line end. -/
theorem Plain.unbroken {cs : List Char} (h : Plain cs) : '\n' ∉ cs ∧ '\r' ∉ cs :=
  ⟨fun hmem => absurd (h _ hmem) (by decide), fun hmem => absurd (h _ hmem) (by decide)⟩

theorem plain_encodeChar (c : Char) : Plain (encodeChar c) := by
  unfold encodeChar
  iterate 7
    split
    · decide
  split
  · next h =>
    have key : ∀ n : Fin 32, Plain ("\\u".toList ++ (hexPadded 4 n.val).toList) := by decide
    exact key ⟨c.toNat, h⟩
  · next h => exact List.forall_mem_singleton.2 (Nat.not_lt.1 h)

theorem plain_printString (s : String) : Plain (printString s) := by
  refine plain_append.2 ⟨plain_cons.2 ⟨by decide, fun c hc => ?_⟩, by decide⟩
  obtain ⟨_, -, hd⟩ := List.mem_flatMap.1 hc
  exact plain_encodeChar _ c hd

theorem plain_toDigits (n : Nat) : Plain (Nat.toDigits 10 n) := by
  intro c hc
  have hdigit : c.isDigit = true := Nat.isDigit_of_mem_toDigits (by decide) (by decide) hc
  simp only [Char.isDigit, Bool.and_eq_true, decide_eq_true_eq] at hdigit
  have hlow : 48 ≤ c.toNat := hdigit.1
  omega

theorem plain_replicate {c : Char} (h : 0x20 ≤ c.toNat) (n : Nat) : Plain (List.replicate n c) :=
  fun _ hd => (List.mem_replicate.1 hd).2 ▸ h

theorem plain_printDecimal (d : Decimal) : Plain (printDecimal d) := by
  have hds := plain_toDigits d.digits
  have hzeros := plain_replicate (c := '0') (by decide)
  unfold printDecimal
  generalize Nat.toDigits 10 d.digits = ds at hds
  simp only
  split
  · split
    · exact plain_append.2 ⟨plain_append.2 ⟨hds, hzeros _⟩, by decide⟩
    · exact plain_append.2 ⟨fun c hc => hds c (List.mem_of_mem_take hc),
        plain_cons.2 ⟨by decide, fun c hc => hds c (List.mem_of_mem_drop hc)⟩⟩
  split
  · exact plain_append.2 ⟨plain_cons.2 ⟨by decide, plain_cons.2 ⟨by decide, hzeros _⟩⟩, hds⟩
  · refine plain_append.2 ⟨?_, plain_cons.2 ⟨by decide, plain_cons.2 ⟨?_, plain_toDigits _⟩⟩⟩
    · split
      · exact hds
      · exact hds
      · obtain ⟨hfirst, hmore⟩ := plain_cons.1 hds
        exact plain_cons.2 ⟨hfirst, plain_cons.2 ⟨by decide, hmore⟩⟩
    · split <;> decide

theorem plain_printNumber (n : Number) : Plain (printNumber n) := by
  cases n with
  | whole n =>
    refine plain_append.2 ⟨?_, plain_toDigits _⟩
    split <;> decide
  | float bits =>
    rw [printNumber]
    unfold printFloat
    split
    · decide
    · refine plain_append.2 ⟨?_, ?_⟩
      · split <;> decide
      · split
        · decide
        · exact plain_printDecimal _

mutual

/-- A compact text holds no control characters. -/
theorem plain_print : ∀ j, Plain (print j)
  | .null => by decide
  | .bool true => by decide
  | .bool false => by decide
  | .number n => plain_printNumber n
  | .string s => plain_printString s
  | .array [] => by decide
  | .array (item :: rest) =>
    plain_append.2 ⟨plain_cons.2 ⟨by decide, plain_print item⟩, plain_printItems rest⟩
  | .object [] => by decide
  | .object ((name, value) :: rest) =>
    plain_append.2 ⟨plain_append.2 ⟨plain_cons.2 ⟨by decide, plain_printString name⟩,
      plain_cons.2 ⟨by decide, plain_print value⟩⟩, plain_printFields rest⟩

theorem plain_printItems : ∀ rest, Plain (printItems rest)
  | [] => by decide
  | item :: rest =>
    plain_append.2 ⟨plain_cons.2 ⟨by decide, plain_print item⟩, plain_printItems rest⟩

theorem plain_printFields : ∀ rest, Plain (printFields rest)
  | [] => by decide
  | (name, value) :: rest =>
    plain_append.2 ⟨plain_append.2 ⟨plain_cons.2 ⟨by decide, plain_printString name⟩,
      plain_cons.2 ⟨by decide, plain_print value⟩⟩, plain_printFields rest⟩

end

end HealthAgent.Json
