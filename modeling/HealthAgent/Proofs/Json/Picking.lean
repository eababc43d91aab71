import HealthAgent.Json.Pick
import HealthAgent.Proofs.Json.Spelling
import Mathlib.Data.List.Forall2
/-!
# Fields picked from a spelled object

A structure is read by cutting the text of its object into the texts of its fields. If the text
spells an object, each of these texts spells the value of its field, and so a field that is read
gives its value, however deep the fields beside it are nested.

Results:
* `cutValue?_spelled`: the text of a value is cut off right behind the value.
* `outline?_spelled`: a spelled object is cut into texts that spell the values of its fields.
* `pick?_spelled`: the fields that are picked from a spelled object are those of the object.
-/
namespace HealthAgent.Json

theorem cutValue?_spelled {j : Json} {cs rest : List Char} (h : Spells j cs) (hr : Ended rest) :
    cutValue? (cs ++ rest) = some (cs, rest) := by
  rw [cutValue?, passOver?_spelled h hr]
  simp

/-- `Texts fields texts`: the texts spell the values of the fields. -/
def Texts (fields : List (String × Json)) (texts : List (String × List Char)) : Prop :=
  List.Forall₂ (fun f t => t.1 = f.1 ∧ Spells f.2 t.2) fields texts

section Cutting

variable {fuel : Nat} {cs value text more next rest : List Char} {name : String}
  {texts : List (String × List Char)}

theorem cutFields?_last (hname : Names name cs value) (hvalue : cutValue? value = some (text, more))
    (h : skipBlank more = '\x7d' :: rest) :
    cutFields? (fuel + 1) cs = some ([(name, text)], rest) := by
  obtain ⟨r, tail, hquote, hread, hcolon⟩ := hname.reads
  simp [cutFields?, goesOn?, hquote, hread, hcolon, hvalue, h]

theorem cutFields?_next (hname : Names name cs value) (hvalue : cutValue? value = some (text, more))
    (h : skipBlank more = ',' :: next) (hnext : cutFields? fuel next = some (texts, rest)) :
    cutFields? (fuel + 1) cs = some ((name, text) :: texts, rest) := by
  obtain ⟨r, tail, hquote, hread, hcolon⟩ := hname.reads
  simp [cutFields?, goesOn?, hquote, hread, hcolon, hvalue, h, hnext]

end Cutting

/-- Spelled fields are cut into the texts of their values. -/
theorem cutFields?_spelled (fields : List (String × Json)) {cs : List Char}
    (h : SpellsFields fields cs) {fuel : Nat} (hf : cs.length ≤ fuel) (rest : List Char) :
    ∃ texts, cutFields? fuel (cs ++ rest) = some (texts, rest) ∧ Texts fields texts := by
  induction fields generalizing cs fuel with
  | nil => exact h.elim
  | cons field fields ih =>
    obtain ⟨text, more, hname, hvalue, hmore⟩ := h
    have hshorter := hname.length
    have hname := hname.append rest
    rw [List.append_assoc] at hname
    rw [List.length_append] at hshorter
    obtain ⟨fuel, rfl⟩ : ∃ k, fuel = k + 1 := ⟨fuel - 1, by omega⟩
    rcases hmore with ⟨rfl, hclose⟩ | ⟨next, hcomma, hfields⟩
    · have hcut := cutValue?_spelled hvalue (ended_of_skipBlank hclose (by decide) rest)
      exact ⟨_, cutFields?_last hname hcut (skipBlank_append hclose rest), .cons ⟨rfl, hvalue⟩ .nil⟩
    · have hcut := cutValue?_spelled hvalue (ended_of_skipBlank hcomma (by decide) rest)
      have hlength := length_lt_of_skipBlank hcomma
      obtain ⟨texts, hnext, htexts⟩ : ∃ texts, cutFields? fuel (next ++ rest) = some (texts, rest) ∧
          Texts fields texts := ih hfields (by omega)
      exact ⟨_, cutFields?_next hname hcut (skipBlank_append hcomma rest) hnext,
        .cons ⟨rfl, hvalue⟩ htexts⟩

theorem outline?_spelled {fields : List (String × Json)} {cs : List Char}
    (h : Spells (.object fields) cs) :
    ∃ texts, outline? cs = some (.fields texts) ∧ Texts fields texts := by
  obtain ⟨first, hopen, ⟨rfl, hclose⟩ | hfields⟩ := h
  · refine ⟨[], ?_, .nil⟩
    simp only [outline?, hopen, hclose]
    rfl
  · obtain ⟨texts, hcut, htexts⟩ :=
      cutFields?_spelled fields hfields.skipped (Nat.le_refl _) []
    rw [List.append_nil] at hcut
    obtain ⟨r, hquote⟩ := hfields.front
    refine ⟨texts, ?_, htexts⟩
    rw [hquote] at hcut
    simp only [outline?, hopen, hquote]
    change (cutFields? _ _).bind _ = _
    rw [hcut]
    rfl

theorem scanned_texts (names : List String) {fields : List (String × Json)}
    {texts : List (String × List Char)} (h : Texts fields texts)
    (hd : ∀ f ∈ fields, nesting f.2 ≤ maxDepth) :
    ((texts.filter fun (name, _) => names.contains name).mapM fun (name, text) =>
      (scanAll? text).map (name, ·)) = some (fields.filter fun f => names.contains f.1) := by
  induction h with
  | nil => rfl
  | @cons f t fields texts ht htexts ih =>
    obtain ⟨hname, hspells⟩ := ht
    have hscan := scanAll?_spelled hspells (hd f List.mem_cons_self)
    have ih := ih fun f hf => hd f (List.mem_cons_of_mem _ hf)
    simp only [List.filter_cons, hname]
    split
    · rw [List.mapM_cons, ih, hscan, hname]
      rfl
    · exact ih

theorem mapM_of_forall₂ {α β : Type} {f : α → Option β} {xs : List α} {ys : List β}
    (h : List.Forall₂ (fun x y => f x = some y) xs ys) : xs.mapM f = some ys := by
  induction h with
  | nil => rfl
  | cons hxy _ ih =>
    rw [List.mapM_cons, hxy, ih]
    rfl

theorem mapM_congr {α β : Type} {f g : α → Option β} {xs : List α} (h : ∀ x ∈ xs, f x = g x) :
    xs.mapM f = xs.mapM g := by
  induction xs with
  | nil => rfl
  | cons x xs ih =>
    rw [List.mapM_cons, List.mapM_cons, h x List.mem_cons_self,
      ih fun y hy => h y (List.mem_cons_of_mem x hy)]

theorem fieldValues?_filter (names : List String) (fields : List (String × Json)) :
    fieldValues? names (.object (fields.filter fun f => names.contains f.1)) =
      fieldValues? names (.object fields) := by
  have hown : ∀ name ∈ names, (fields.filter fun f => names.contains f.1).filter (·.1 = name) =
      fields.filter (·.1 = name) := by
    intro name hname
    rw [List.filter_filter]
    refine List.filter_congr fun f _ => ?_
    by_cases hf : f.1 = name <;> simp [hf, hname]
  refine mapM_congr fun name hname => ?_
  simp only [hown name hname]

/-- The fields that are picked from a spelled object are its fields. -/
theorem pick?_spelled (names : List String) {fields : List (String × Json)} {cs : List Char}
    (h : Spells (.object fields) cs) (hd : ∀ f ∈ fields, nesting f.2 ≤ maxDepth) :
    pick? names cs = fieldValues? names (.object fields) := by
  obtain ⟨texts, houtline, htexts⟩ := outline?_spelled h
  have hown := scanned_texts names htexts hd
  simp only [pick?, houtline]
  change Option.bind (List.mapM _ _) _ = _
  rw [hown]
  exact fieldValues?_filter names fields

end HealthAgent.Json
