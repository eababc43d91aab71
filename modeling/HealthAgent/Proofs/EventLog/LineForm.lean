import HealthAgent.EventLog.Entry
import HealthAgent.Proofs.Number.Numeral
import HealthAgent.Proofs.Text.Cuts
import HealthAgent.Proofs.Text.Padding
/-!
# The form of a line of the log

A line is an entry exactly when it has six fields or more, the first of which is a record number and
the sixth a status. What an entry is written as is read back, field by field, whatever blanks stand
around the fields and whatever fields follow. The sensor number of a label is what stands behind the
last `#0x`, so that the type of a device may hold another one.

Results:
* `Assertion.parse?_eq_some_iff`, `parseIndex?_eq_some_iff`: which fields are a status, and which are a
  record number.
* `splitLabel_numbered`: a label is split before its sensor number.
* `parse_eq_ok_iff`: the six fields of a line tell whether it is an entry, and which.
* `line_form`: the form of a line, and the entry that is read back from the line that it is written as.
-/
namespace HealthAgent
open Text

theorem Assertion.parse?_eq_some_iff {text : String} {a : Assertion} :
    Assertion.parse? text = some a ↔ text.trimBlank = a.name := by
  constructor
  · intro h
    have hname := List.find?_some h
    exact (of_decide_eq_true hname).symm
  · intro h
    rw [Assertion.parse?, h]
    cases a <;> decide

namespace LogEntry

/-! ## The fields -/

/-- `IsIndex text n`: a text is the record number `n`, which may have a lead of two characters. -/
def IsIndex (text : List Char) (n : Nat) : Prop :=
  ∃ lead ∈ [[], ['0', 'x'], ['0', 'X']], ∃ digits, text = lead ++ digits ∧ Number.Spells 16 digits n

theorem not_spells_lead {c : Char} (hc : Number.digitValue? 16 c = none) (rest : List Char) (n : Nat) :
    ¬ Number.Spells 16 ('0' :: c :: rest) n := by
  rintro ⟨digits, values, rfl | hsign, -, hvalues, -⟩
  · obtain _ | ⟨-, hvalues⟩ := hvalues
    obtain _ | ⟨hd, -⟩ := hvalues
    simp [hc] at hd
  · cases hsign

theorem spells_indexDigits_iff {field : List Char} {n : Nat} :
    Number.Spells 16 (indexDigits field) n ↔ IsIndex (trim field) n := by
  constructor
  · intro h
    simp only [indexDigits] at h
    cases hsmall : dropLead? ['0', 'x'] (trim field) with
    | some digits =>
      simp only [hsmall] at h
      exact ⟨_, by simp, digits, dropLead?_eq_some_iff.1 hsmall, h⟩
    | none =>
      simp only [hsmall] at h
      cases hlarge : dropLead? ['0', 'X'] (trim field) with
      | some digits =>
        rw [hlarge, Option.getD_some] at h
        exact ⟨_, by simp, digits, dropLead?_eq_some_iff.1 hlarge, h⟩
      | none =>
        rw [hlarge, Option.getD_none] at h
        exact ⟨[], by simp, trim field, rfl, h⟩
  · rintro ⟨lead, hlead, digits, htext, h⟩
    simp only [List.mem_cons, List.not_mem_nil, or_false] at hlead
    simp only [indexDigits]
    obtain rfl | rfl | rfl := hlead
    · -- Nothing is taken off the digits, as no number begins with a lead.
      have hkept {c : Char} (hc : Number.digitValue? 16 c = none) :
          dropLead? ['0', c] (trim field) = none := by
        rw [Option.eq_none_iff_forall_ne_some]
        intro rest hrest
        rw [htext, dropLead?_eq_some_iff, List.nil_append] at hrest
        rw [hrest] at h
        exact not_spells_lead hc rest n h
      rw [hkept (by decide), hkept (by decide), Option.getD_none, htext]
      exact h
    · rw [dropLead?_eq_some_iff.2 htext]
      exact h
    · have hsmall : dropLead? ['0', 'x'] (trim field) = none := by
        rw [htext]
        rfl
      rw [hsmall, dropLead?_eq_some_iff.2 htext]
      exact h

theorem parseIndex?_eq_some_iff {field : List Char} {index : UInt64} :
    parseIndex? field = some index ↔ IsIndex (trim field) index.toNat := by
  rw [← spells_indexDigits_iff, ← Number.read_eq_ok_iff, parseIndex?]
  cases hread : Number.read 16 (indexDigits field) with
  | error e => simp [Except.toOption]
  | ok n =>
    have hround : n.toUInt64.toNat = n :=
      UInt64.toNat_ofNat_of_lt' (Number.read_eq_ok_iff.1 hread).lt
    rw [Except.toOption, Option.map_some, Option.some_inj, Except.ok.injEq, ← UInt64.toNat_inj, hround]

theorem isIndex_hex (index : UInt64) : IsIndex (Number.hex index.toNat).toList index.toNat := by
  refine ⟨[], by simp, Nat.toDigits 16 index.toNat, by simp [Number.hex], ?_⟩
  exact Number.read_eq_ok_iff.1 (Number.read_toDigits _ index.toNat_lt)

/-- A label is split before its sensor number, also where the type of the device holds another one. -/
theorem splitLabel_numbered {number : List Char} (hne : number ≠ [])
    (hhex : ∀ c ∈ number, Number.isHexDigit c = true) (type : List Char) :
    splitLabel (type ++ numberMark ++ number) = (trim type, some (lower number)) := by
  have hmark : ' ' ∉ number := fun hmem => absurd (hhex _ hmem) (by decide)
  have hcut : cutAtLast numberMark (type ++ numberMark ++ number) = some (type, number) :=
    cutAtLast_append (by decide) hmark type
  have hall : number.all Number.isHexDigit = true := List.all_eq_true.2 hhex
  simp only [splitLabel, hcut]
  simp [hne, hall]

/-! ## The line -/

/-- The form of a line: six fields or more, of which the first is a record number and the sixth a
status. -/
def HasForm (line : List Char) : Prop :=
  ∃ f₀ f₁ f₂ f₃ f₄ f₅ more n, line.splitOn '|' = f₀ :: f₁ :: f₂ :: f₃ :: f₄ :: f₅ :: more ∧
    IsIndex (trim f₀) n ∧ String.ofList (trim f₅) ∈ ["Asserted", "Deasserted"]

/-- The entry with these fields, which may stand between blanks. -/
def ofFields (index : UInt64) (status : Assertion) (date time label description : List Char) :
    LogEntry where
  index := index
  status := status
  date := .ofList (trim date)
  time := .ofList (trim time)
  deviceLabel := .ofList (trim label)
  deviceType := .ofList (splitLabel (trim label)).1
  deviceNumber := (splitLabel (trim label)).2.map .ofList
  description := .ofList (trim description)

/-- The six fields of a line tell whether it is an entry, and which. -/
theorem parse_eq_ok_iff {line : String} {e : LogEntry} : parse line = .ok e ↔
    ∃ f₀ f₁ f₂ f₃ f₄ f₅ more index status,
      line.toList.splitOn '|' = f₀ :: f₁ :: f₂ :: f₃ :: f₄ :: f₅ :: more ∧
        IsIndex (trim f₀) index.toNat ∧ String.ofList (trim f₅) = status.name ∧
        e = ofFields index status f₁ f₂ f₃ f₄ := by
  constructor
  · intro h
    rw [parse] at h
    split at h
    · next hfields =>
      simp only [List.map_eq_cons_iff] at hfields
      obtain ⟨f₀, _, hsplit, rfl, f₁, _, rfl, rfl, f₂, _, rfl, rfl, f₃, _, rfl, rfl, f₄, _, rfl,
        rfl, f₅, more, rfl, rfl, -⟩ := hfields
      split at h
      · cases h
      next index hindex =>
      split at h
      · cases h
      next status hstatus =>
      cases h
      refine ⟨f₀, f₁, f₂, f₃, f₄, f₅, more, index, status, hsplit, ?_, ?_, rfl⟩
      · rw [← trim_trim]
        exact parseIndex?_eq_some_iff.1 hindex
      · have hname := Assertion.parse?_eq_some_iff.1 hstatus
        rwa [String.trimBlank, String.toList_ofList, trim_trim] at hname
    · cases h
  · rintro ⟨f₀, f₁, f₂, f₃, f₄, f₅, more, index, status, hsplit, hindex, hstatus, rfl⟩
    have hnumber : parseIndex? (trim f₀) = some index :=
      parseIndex?_eq_some_iff.2 (by rwa [trim_trim])
    have hname : Assertion.parse? (.ofList (trim f₅)) = some status := by
      rw [hstatus]
      exact status.parse?_name
    simp [parse, fields, hsplit, hnumber, hname, ofFields]

theorem exists_parse_iff (line : String) : (∃ e, parse line = .ok e) ↔ HasForm line.toList := by
  constructor
  · rintro ⟨e, h⟩
    obtain ⟨f₀, f₁, f₂, f₃, f₄, f₅, more, index, status, hsplit, hindex, hstatus, -⟩ :=
      parse_eq_ok_iff.1 h
    refine ⟨f₀, f₁, f₂, f₃, f₄, f₅, more, index.toNat, hsplit, hindex, ?_⟩
    rw [hstatus]
    cases status <;> simp [Assertion.name]
  · rintro ⟨f₀, f₁, f₂, f₃, f₄, f₅, more, n, hsplit, hindex, hstatus⟩
    have hround : n.toUInt64.toNat = n := by
      obtain ⟨lead, -, digits, -, hspells⟩ := hindex
      exact UInt64.toNat_ofNat_of_lt' hspells.lt
    obtain ⟨status, hname⟩ : ∃ status : Assertion, String.ofList (trim f₅) = status.name := by
      simp only [List.mem_cons, List.not_mem_nil, or_false] at hstatus
      exact hstatus.elim (fun h => ⟨.asserted, h⟩) fun h => ⟨.deasserted, h⟩
    rw [← hround] at hindex
    exact ⟨_, parse_eq_ok_iff.2
      ⟨f₀, f₁, f₂, f₃, f₄, f₅, more, n.toUInt64, status, hsplit, hindex, hname, rfl⟩⟩

/-- Type and sensor number of an entry are the parts of its label. -/
theorem splitLabel_of_parse {line : String} {e : LogEntry} (h : parse line = .ok e) :
    e.deviceType = .ofList (splitLabel e.deviceLabel.toList).1 ∧
      e.deviceNumber = (splitLabel e.deviceLabel.toList).2.map .ofList := by
  obtain ⟨-, -, -, -, -, -, -, -, -, -, -, -, rfl⟩ := parse_eq_ok_iff.1 h
  rw [ofFields, String.toList_ofList]
  exact ⟨rfl, rfl⟩

/-! ## What is written is read back -/

/-- The text of a field: no bar in it, and no blank at either end. -/
structure FieldText where
  text : List Char
  trimmed : Trimmed text
  barless : '|' ∉ text

/-- An entry with a sensor number, as it is written. -/
structure Written where
  index : UInt64
  date : FieldText
  time : FieldText
  type : FieldText
  type_ne_nil : type.text ≠ []
  /-- The digits of the sensor number, in any letter case. -/
  number : List Char
  number_ne_nil : number ≠ []
  number_hex : ∀ c ∈ number, Number.isHexDigit c = true
  description : FieldText
  status : Assertion

namespace Written

/-- The label of a device: its type, and its number behind a mark. -/
def label (w : Written) : List Char := w.type.text ++ numberMark ++ w.number

/-- The fields of the line that an entry is written as. -/
def fields (w : Written) : List (List Char) := [(Number.hex w.index.toNat).toList, w.date.text,
  w.time.text, w.label, w.description.text, w.status.name.toList]

/-- The entry that has been written; the letter case of its sensor number does not count. -/
def entry (w : Written) : LogEntry where
  index := w.index
  date := .ofList w.date.text
  time := .ofList w.time.text
  deviceLabel := .ofList w.label
  deviceType := .ofList w.type.text
  deviceNumber := some (String.ofList w.number).lowerAscii
  description := .ofList w.description.text
  status := w.status

theorem splitLabel_label (w : Written) : splitLabel w.label = (w.type.text, some (lower w.number)) := by
  have htype : trim w.type.text = w.type.text := w.type.trimmed
  rw [label, splitLabel_numbered w.number_ne_nil w.number_hex, htype]

theorem trimmed_of_hex {cs : List Char} (h : ∀ c ∈ cs, Number.isHexDigit c = true) : Trimmed cs :=
  trim_eq_self cs (fun c hc => Number.isBlank_of_digit c (h c (List.mem_of_head? hc)))
    fun c hc => Number.isBlank_of_digit c (h c (List.mem_of_getLast? hc))

theorem barless_of_hex {cs : List Char} (h : ∀ c ∈ cs, Number.isHexDigit c = true) : '|' ∉ cs :=
  fun hmem => absurd (h _ hmem) (by decide)

theorem trimmed_label (w : Written) : Trimmed w.label :=
  w.type.trimmed.append (trimmed_of_hex w.number_hex) w.type_ne_nil w.number_ne_nil numberMark

theorem barless_label (w : Written) : '|' ∉ w.label := by
  have hmark : '|' ∉ numberMark := by decide
  simp [label, w.type.barless, hmark, barless_of_hex w.number_hex]

theorem fields_trimmed_barless (w : Written) : ∀ text ∈ w.fields, Trimmed text ∧ '|' ∉ text := by
  have hhex : ∀ c ∈ (Number.hex w.index.toNat).toList, Number.isHexDigit c = true := by
    simpa [Number.hex] using Number.isDigit_of_mem_toDigits _ w.index.toNat_lt
  have hstatus : Trimmed w.status.name.toList ∧ '|' ∉ w.status.name.toList := by
    cases w.status <;> exact ⟨rfl, by decide⟩
  simp only [fields, List.forall_mem_cons, List.not_mem_nil, false_imp_iff, implies_true, and_true]
  exact ⟨⟨trimmed_of_hex hhex, barless_of_hex hhex⟩, ⟨w.date.trimmed, w.date.barless⟩,
    ⟨w.time.trimmed, w.time.barless⟩, ⟨w.trimmed_label, w.barless_label⟩,
    ⟨w.description.trimmed, w.description.barless⟩, hstatus⟩

end Written

/-- Fields between blanks are still fields, and trimmed to what they hold. -/
theorem padded_fields {texts padded : List (List Char)} (h : List.Forall₂ Between texts padded)
    (hgood : ∀ text ∈ texts, Trimmed text ∧ '|' ∉ text) :
    padded.map trim = texts ∧ ∀ field ∈ padded, '|' ∉ field := by
  induction h with
  | nil => simp
  | @cons text field texts padded hfield _ ih =>
    obtain ⟨⟨htrimmed, hbar⟩, hgood⟩ := List.forall_mem_cons.1 hgood
    obtain ⟨htexts, hbars⟩ := ih hgood
    have hfieldBar : '|' ∉ field := fun hmem =>
      (hfield.mem hmem).elim (fun hblank => absurd hblank (by decide)) hbar
    exact ⟨by rw [List.map_cons, htrimmed.between hfield, htexts],
      List.forall_mem_cons.2 ⟨hfieldBar, hbars⟩⟩

/-- A line is an entry exactly when it has six fields or more, the first of which is a record number,
with or without a lead, and the sixth a status. An entry is read back from the line that it is written
as, whatever blanks stand around its fields and whatever fields follow them. -/
theorem line_form :
    (∀ line : String, (∃ e, parse line = .ok e) ↔ HasForm line.toList) ∧
      ∀ (w : Written) (padded more : List (List Char)), List.Forall₂ Between w.fields padded →
        parse (.ofList (['|'].intercalate (padded ++ more))) = .ok w.entry := by
  refine ⟨exists_parse_iff, fun w padded more hpadded => ?_⟩
  obtain ⟨htrim, hbar⟩ := padded_fields hpadded w.fields_trimmed_barless
  simp only [Written.fields, List.map_eq_cons_iff, List.map_eq_nil_iff] at htrim
  obtain ⟨f₀, _, rfl, hindex, f₁, _, rfl, hdate, f₂, _, rfl, htime, f₃, _, rfl, hlabel, f₄, _, rfl,
    hdescription, f₅, _, rfl, hstatus, rfl⟩ := htrim
  obtain ⟨rest, hsplit⟩ := splitOn_intercalate_append (List.cons_ne_nil _ _) hbar more
  refine parse_eq_ok_iff.2 ⟨f₀, f₁, f₂, f₃, f₄, f₅, rest, w.index, w.status, ?_, ?_, ?_, ?_⟩
  · rw [String.toList_ofList]
    exact hsplit
  · rw [hindex]
    exact isIndex_hex w.index
  · rw [hstatus, String.ofList_toList]
  · rw [ofFields, hdate, htime, hlabel, hdescription, w.splitLabel_label, Written.entry,
      String.lowerAscii, String.toList_ofList]
    rfl

namespace LineTrial

/-- A record of a fan whose type looks like a label with a number. -/
def written : Written where
  index := 0x1af
  date := ⟨"04/20/2023".toList, by decide +kernel, by decide⟩
  time := ⟨[], rfl, by decide⟩
  type := ⟨"Fan #0x2".toList, by decide +kernel, by decide⟩
  type_ne_nil := by decide
  number := "3F".toList
  number_ne_nil := by decide
  number_hex := List.all_eq_true.1 (by decide)
  description := ⟨"Upper Critical going high".toList, by decide +kernel, by decide⟩
  status := .asserted

/-- Its fields between blanks of several kinds. -/
def padded : List (List Char) :=
  ["\t1af".toList, " 04/20/2023\r".toList, "\u2003".toList, " Fan #0x2 #0x3F\u3000".toList,
    "Upper Critical going high\n".toList, "\u0085Asserted ".toList]

theorem between_padded : List.Forall₂ Between written.fields padded :=
  .cons (between_of_blank ['\t'] [] (by decide +kernel) rfl rfl) <|
  .cons (between_of_blank [' '] ['\r'] (by decide +kernel) rfl rfl) <|
  .cons (between_of_blank ['\u2003'] [] (by decide +kernel) rfl rfl) <|
  .cons (between_of_blank [' '] ['\u3000'] (by decide +kernel) rfl rfl) <|
  .cons (between_of_blank [] ['\n'] (by decide +kernel) rfl rfl) <|
  .cons (between_of_blank ['\u0085'] [' '] (by decide +kernel) rfl rfl) .nil

end LineTrial

/-- The last mark counts, and two more fields do not. -/
theorem line_form_two_marks : List.Forall₂ Between LineTrial.written.fields LineTrial.padded ∧
    parse (.ofList (['|'].intercalate (LineTrial.padded ++ ["7 RPM".toList, []]))) =
      .ok ⟨0x1af, "04/20/2023", "", "Fan #0x2 #0x3F", "Fan #0x2", some "3f",
        "Upper Critical going high", .asserted⟩ := by
  have hentry : LineTrial.written.entry = ⟨0x1af, "04/20/2023", "", "Fan #0x2 #0x3F", "Fan #0x2",
      some "3f", "Upper Critical going high", .asserted⟩ := by decide +kernel
  have hline := line_form.2 LineTrial.written LineTrial.padded ["7 RPM".toList, []]
    LineTrial.between_padded
  exact ⟨LineTrial.between_padded, hentry ▸ hline⟩

end LogEntry
end HealthAgent
