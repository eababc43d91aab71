import Mathlib.Data.List.Basic
/-!
# Encoded texts cut in two

The encoding of a text can be cut at any byte, also within a character. If the part behind the cut
starts with the first byte of a character, the cut stands between two characters and both parts are
encodings themselves. So an encoding that is put together from parts which all start in this way is the
encoding of a text that is put together from the parts' texts.

Results:
* `toByteArray_utf8`: the bytes of a text's characters are the bytes of the text.
* `prefix_of_utf8_prefix`: an encoding that begins another one encodes a beginning of its text.
* `utf8_eq_append`: a cut in front of a first byte cuts the text.
* `utf8_eq_flatten`: parts that start with first bytes are encodings of the parts of the text.
-/
namespace HealthAgent.Text

def utf8 (cs : List Char) : List UInt8 := cs.flatMap String.utf8EncodeChar

@[simp] theorem utf8_nil : utf8 [] = [] := rfl

@[simp] theorem utf8_cons (c : Char) (cs : List Char) :
    utf8 (c :: cs) = String.utf8EncodeChar c ++ utf8 cs := List.flatMap_cons

/-- The bytes of a text's characters are the bytes of the text. -/
theorem toByteArray_utf8 (s : String) : (utf8 s.toList).toByteArray = s.toUTF8 := by
  rw [String.toUTF8_eq_toByteArray, ← String.utf8Encode_toList]
  rfl

theorem utf8_eq_nil {cs : List Char} (h : utf8 cs = []) : cs = [] := by
  cases cs with
  | nil => rfl
  | cons c cs => simp at h

theorem fromUTF8?_utf8 (cs : List Char) :
    String.fromUTF8? (utf8 cs).toByteArray = some (.ofList cs) := by
  have hvalid : (utf8 cs).toByteArray.IsValidUTF8 := .intro cs rfl
  rw [String.fromUTF8?, dif_pos hvalid]
  rfl

theorem utf8_of_fromUTF8? {bytes : List UInt8} {s : String}
    (h : String.fromUTF8? bytes.toByteArray = some s) : bytes = utf8 s.toList := by
  unfold String.fromUTF8? at h
  split at h
  · cases h
    have hbytes := toByteArray_utf8 (String.fromUTF8 bytes.toByteArray ‹_›)
    exact (List.toByteArray_inj.1 hbytes).symm
  · cases h

/-- An encoding that begins another one encodes a beginning of its text. -/
theorem prefix_of_utf8_prefix {cs ds : List Char} (h : utf8 cs <+: utf8 ds) : cs <+: ds := by
  obtain ⟨rest, hrest⟩ := h
  refine List.isPrefix_of_utf8Encode_append_eq_utf8Encode rest.toByteArray ?_
  have hbytes := congrArg List.toByteArray hrest
  rwa [List.toByteArray_append] at hbytes

/-- A byte below `0x80` encodes one character only, the one with its number. -/
theorem toNat_of_mem_utf8EncodeChar {c : Char} {b : UInt8} (h : b ∈ String.utf8EncodeChar c)
    (hb : b.toNat < 0x80) : c.toNat = b.toNat := by
  have hc : c.toNat = c.val.toNat := rfl
  unfold String.utf8EncodeChar at h
  dsimp only at h
  split at h
  · obtain rfl := List.mem_singleton.1 h
    rw [UInt8.toNat_ofNat']
    omega
  -- all bytes of a longer encoding are past `0x80`
  · exfalso
    split at h
    · simp only [List.mem_cons, List.not_mem_nil, or_false] at h
      rcases h with rfl | rfl <;> rw [UInt8.toNat_ofNat'] at hb <;> omega
    · split at h
      · simp only [List.mem_cons, List.not_mem_nil, or_false] at h
        rcases h with rfl | rfl | rfl <;> rw [UInt8.toNat_ofNat'] at hb <;> omega
      · simp only [List.mem_cons, List.not_mem_nil, or_false] at h
        rcases h with rfl | rfl | rfl | rfl <;> rw [UInt8.toNat_ofNat'] at hb <;> omega

/-- A byte below `0x80` stands in an encoding only for its own character. -/
theorem not_mem_utf8 {cs : List Char} {b : UInt8} (hb : b.toNat < 0x80)
    (h : ∀ c ∈ cs, c.toNat ≠ b.toNat) : b ∉ utf8 cs := by
  intro hmem
  obtain ⟨c, hc, hbyte⟩ := List.mem_flatMap.1 hmem
  exact h c hc (toNat_of_mem_utf8EncodeChar hbyte hb)

theorem firstByte_within {c : Char} {front rest : List UInt8} {b : UInt8}
    (h : String.utf8EncodeChar c = front ++ b :: rest) (hb : b.IsUTF8FirstByte) : front = [] := by
  have hlength : front.length < (String.utf8EncodeChar c).length := by simp [h]
  have hbyte : (String.utf8EncodeChar c)[front.length] = b := by simp [h]
  rw [← hbyte] at hb
  exact List.length_eq_zero_iff.1 (UInt8.isUTF8FirstByte_getElem_utf8EncodeChar.1 hb)

/-- A cut in front of a first byte cuts the text. -/
theorem utf8_eq_append {cs : List Char} {front rest : List UInt8} (h : utf8 cs = front ++ rest)
    (hrest : ∀ b ∈ rest.head?, b.IsUTF8FirstByte) :
    ∃ ds es, cs = ds ++ es ∧ utf8 ds = front ∧ utf8 es = rest := by
  induction cs generalizing front with
  | nil =>
    obtain ⟨rfl, rfl⟩ := List.append_eq_nil_iff.1 h.symm
    exact ⟨[], [], rfl, rfl, rfl⟩
  | cons c cs ih =>
    rw [utf8_cons] at h
    rcases List.append_eq_append_iff.1 h with ⟨more, rfl, hmore⟩ | ⟨more, hchar, rfl⟩
    · obtain ⟨ds, es, rfl, rfl, rfl⟩ := ih hmore
      exact ⟨c :: ds, es, rfl, rfl, rfl⟩
    · cases more with
      | nil =>
        rw [List.append_nil] at hchar
        exact ⟨[c], cs, rfl, by simp [hchar], rfl⟩
      | cons b more =>
        -- the cut stands in front of the character, since it does not stand within it
        obtain rfl := firstByte_within hchar (hrest b rfl)
        exact ⟨[], c :: cs, rfl, rfl, by rw [utf8_cons, hchar]; rfl⟩

/-- Parts that start with first bytes are encodings of the parts of the text. -/
theorem utf8_eq_flatten {cs : List Char} {parts : List (List UInt8)} (h : utf8 cs = parts.flatten)
    (hparts : ∀ part ∈ parts, ∃ b rest, part = b :: rest ∧ b.IsUTF8FirstByte) :
    ∃ texts : List (List Char), cs = texts.flatten ∧ texts.map utf8 = parts := by
  induction parts generalizing cs with
  | nil => exact ⟨[], utf8_eq_nil h, rfl⟩
  | cons part parts ih =>
    obtain ⟨-, hmore⟩ := List.forall_mem_cons.1 hparts
    have hfirst : ∀ b ∈ parts.flatten.head?, b.IsUTF8FirstByte := by
      cases parts with
      | nil => simp
      | cons next parts =>
        obtain ⟨b, rest, rfl, hb⟩ := hmore next List.mem_cons_self
        simpa using hb
    obtain ⟨ds, es, rfl, rfl, hes⟩ := utf8_eq_append h hfirst
    obtain ⟨texts, rfl, rfl⟩ := ih hes hmore
    exact ⟨ds :: texts, rfl, rfl⟩

end HealthAgent.Text
