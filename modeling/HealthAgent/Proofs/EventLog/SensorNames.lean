import Mathlib.Data.List.TakeWhile
import HealthAgent.EventLog.Sensor
import HealthAgent.Proofs.EventLog.LineForm
import HealthAgent.Proofs.Program.Runs
import HealthAgent.Proofs.Text.Lines
/-!
# Which sensor an entry is about

An entry of the log tells its sensor by a number behind a mark, as in `Fan #0x3F`; the listing of a
device type tells the number of a sensor with a unit, as in `3fh`. Both are read to the same small
digits, in any letter case. Of the rows of a listing that name one number the last counts. Rows that
are no rows, rows with other numbers and the listings of other device types do not count at all.

Results:
* `Ipmi.sensorNumber?_eq_some_iff`, `Ipmi.parseRow?_eq_some_iff`: which rows name a number.
* `SensorNumbers.sensorId?_addListing`: what a listing adds, row by row.
* `SensorNumbers.run_loadTypes_ok`, `SensorNumbers.run_loadTypes_error`: what the listings of several
  device types add, and when loading them fails.
* `numbered_entry_names_sensor`: the sensor that an entry is about.
-/
namespace HealthAgent
open Text Program

/-! ## Letter case -/

theorem toNat_toLower (c : Char) :
    c.toLower.toNat = if 65 ≤ c.toNat ∧ c.toNat ≤ 90 then c.toNat + 32 else c.toNat := by
  have hcapital : (c.val ≥ 'A'.val ∧ c.val ≤ 'Z'.val) ↔ 65 ≤ c.toNat ∧ c.toNat ≤ 90 := by
    simp only [ge_iff_le, UInt32.le_iff_toNat_le, Char.toNat]
    rfl
  unfold Char.toLower
  split
  · next h =>
    have hrange := hcapital.1 h
    have hshift : ('a'.val - 'A'.val).toNat = 32 := by decide
    rw [if_pos hrange]
    simp only [Char.toNat] at hrange ⊢
    rw [UInt32.toNat_add]
    omega
  · next h => rw [if_neg fun hrange => h (hcapital.2 hrange)]

theorem Text.lower_lower (cs : List Char) : lower (lower cs) = lower cs := by
  have hchar (c : Char) : c.toLower.toLower = c.toLower := by
    apply Char.toNat_inj.1
    rw [toNat_toLower c.toLower, if_neg]
    rw [toNat_toLower c]
    split <;> omega
  simp [lower, hchar]

theorem Number.isHexDigit_toLower (c : Char) : isHexDigit c.toLower = isHexDigit c := by
  simp only [isHexDigit, digitValue?, toNat_toLower]
  grind

theorem Number.hex_of_lower_eq {xs ys : List Char} (h : lower xs = lower ys)
    (hys : ∀ c ∈ ys, isHexDigit c = true) : ∀ c ∈ xs, isHexDigit c = true := by
  intro c hc
  have hsmall : c.toLower ∈ lower ys := h ▸ List.mem_map_of_mem hc
  obtain ⟨c', hc', heq⟩ := List.mem_map.1 hsmall
  rw [← isHexDigit_toLower, ← heq, isHexDigit_toLower]
  exact hys c' hc'

/-! ## Rows -/

namespace Ipmi

/-- `RowNames row sensorId digits`: the row of a listing names the sensor with the number `digits`,
in any letter case, behind which there may be units. -/
def RowNames (row : List Char) (sensorId : String) (digits : List Char) : Prop :=
  ∃ name column more number unit, row.splitOn '|' = name :: column :: more ∧
    trim name = sensorId.toList ∧ sensorId ≠ "" ∧ trim column = number ++ unit ∧
    (∀ c ∈ unit, c = 'h' ∨ c = 'H') ∧ lower number = lower digits

theorem dropUnit_append {number unit : List Char} (hunit : ∀ c ∈ unit, c = 'h' ∨ c = 'H')
    (hnumber : ∀ c ∈ number, ¬ (c = 'h' ∨ c = 'H')) : dropUnit (number ++ unit) = number := by
  have hkept : number.reverse.dropWhile (fun c => c = 'h' || c = 'H') = number.reverse := by
    cases hrev : number.reverse with
    | nil => rfl
    | cons c cs =>
      have hc : c ∈ number := List.mem_reverse.1 (hrev ▸ List.mem_cons_self)
      simp [hnumber c hc]
  rw [dropUnit, List.reverse_append, List.dropWhile_append_of_pos (by simpa using hunit), hkept,
    List.reverse_reverse]

/-- A column is the text without its units, and the units. -/
theorem dropUnit_spec (column : List Char) :
    ∃ unit, column = dropUnit column ++ unit ∧ ∀ c ∈ unit, c = 'h' ∨ c = 'H' := by
  refine ⟨(column.reverse.takeWhile fun c => c = 'h' || c = 'H').reverse, ?_, ?_⟩
  · rw [dropUnit, ← List.reverse_append, List.takeWhile_append_dropWhile, List.reverse_reverse]
  · intro c hc
    simpa using List.mem_takeWhile_imp (List.mem_reverse.1 hc)

section Digits

variable {digits : List Char} (hne : digits ≠ []) (hhex : ∀ c ∈ digits, Number.isHexDigit c = true)

include hne hhex

theorem sensorNumber?_eq_some_iff {column : List Char} : sensorNumber? column = some (lower digits) ↔
      ∃ number unit, column = number ++ unit ∧ (∀ c ∈ unit, c = 'h' ∨ c = 'H') ∧
        lower number = lower digits := by
  have hsmall : (!(lower digits).isEmpty && (lower digits).all Number.isHexDigit) = true := by
    have hall : ∀ c ∈ lower digits, Number.isHexDigit c = true :=
      Number.hex_of_lower_eq (lower_lower digits) hhex
    simpa [lower, hne] using hall
  constructor
  · intro h
    obtain ⟨unit, hcolumn, hunit⟩ := dropUnit_spec column
    simp only [sensorNumber?] at h
    split at h
    · exact ⟨_, unit, hcolumn, hunit, Option.some_inj.1 h⟩
    · cases h
  · rintro ⟨number, unit, rfl, hunit, hlower⟩
    have hnumber : ∀ c ∈ number, ¬ (c = 'h' ∨ c = 'H') := by
      rintro c hc (rfl | rfl) <;> exact absurd (Number.hex_of_lower_eq hlower hhex _ hc) (by decide)
    simp only [sensorNumber?, dropUnit_append hunit hnumber, hlower, hsmall, if_true]

theorem parseRow?_eq_some_iff {row : List Char} {sensorId : String} :
    parseRow? row = some (sensorId, .ofList (lower digits)) ↔ RowNames row sensorId digits := by
  constructor
  · intro h
    rw [parseRow?] at h
    split at h
    · next hfields =>
      simp only [List.map_eq_cons_iff] at hfields
      obtain ⟨name, _, hsplit, rfl, column, more, rfl, rfl, -⟩ := hfields
      split at h
      · cases h
      next hname =>
      obtain ⟨small, hnumber, heq⟩ := Option.map_eq_some_iff.1 h
      simp only [Prod.mk.injEq, String.ofList_inj] at heq
      obtain ⟨rfl, rfl⟩ := heq
      obtain ⟨number, unit, hcolumn, hunit, hlower⟩ := (sensorNumber?_eq_some_iff hne hhex).1 hnumber
      refine ⟨name, column, more, number, unit, hsplit, by simp, ?_, hcolumn, hunit, hlower⟩
      simpa using hname
    · cases h
  · rintro ⟨name, column, more, number, unit, hsplit, hname, hid, hcolumn, hunit, hlower⟩
    have hnumber : sensorNumber? (trim column) = some (lower digits) :=
      (sensorNumber?_eq_some_iff hne hhex).2 ⟨number, unit, hcolumn, hunit, hlower⟩
    simp [parseRow?, fields, hsplit, hname, hid, hnumber]

end Digits

theorem lowerAscii_of_parseRow? {row : List Char} {sensorId number : String}
    (h : parseRow? row = some (sensorId, number)) : number.lowerAscii = number := by
  rw [parseRow?] at h
  split at h
  · split at h
    · cases h
    obtain ⟨small, hsmall, heq⟩ := Option.map_eq_some_iff.1 h
    simp only [Prod.mk.injEq] at heq
    obtain ⟨-, rfl⟩ := heq
    simp only [sensorNumber?] at hsmall
    split at hsmall
    · cases hsmall
      simp [String.lowerAscii, lower_lower]
    · cases hsmall
  · cases h

/-- The last row of a listing that names a number gives its sensor this name. -/
def LastNames (text sensorId : String) (digits : List Char) : Prop :=
  ∃ before row after, LinesAre text.toList (before ++ row :: after) ∧
    RowNames row sensorId digits ∧ ∀ row' ∈ after, ∀ sensorId', ¬ RowNames row' sensorId' digits

def NoRowNames (text : String) (digits : List Char) : Prop :=
  ∀ rows, LinesAre text.toList rows → ∀ row ∈ rows, ∀ sensorId, ¬ RowNames row sensorId digits

end Ipmi

/-! ## Listings -/

namespace SensorNumbers

/-- The name that a row gives to the sensor with a number in small digits. -/
def nameIn? (number : String) (row : List Char) : Option String :=
  (Ipmi.parseRow? row).bind fun (sensorId, listed) =>
    if number = listed.lowerAscii then some sensorId else none

/-- The name that the last row with a number gives to its sensor. -/
def lastName? (number : String) (rows : List (List Char)) : Option String :=
  rows.reverse.findSome? (nameIn? number)

theorem lastName?_cons (number : String) (row : List Char) (rows : List (List Char)) :
    lastName? number (row :: rows) = (lastName? number rows).or (nameIn? number row) := by
  rw [lastName?, List.reverse_cons, List.findSome?_append, List.findSome?_singleton, lastName?]

/-- What a listing adds: of the rows with one number, the last counts. -/
theorem sensorId?_addListing (m : SensorNumbers) (d d' : Device) (text number : String) :
    (m.addListing d text).sensorId? d' number =
      (if d' = d then lastName? number (lines text.toList) else none).or (m.sensorId? d' number) := by
  rw [addListing, Ipmi.parseListing]
  generalize lines text.toList = rows
  induction rows generalizing m with
  | nil => simp [lastName?]
  | cons row rows ih =>
    rw [List.filterMap_cons, lastName?_cons, nameIn?]
    cases Ipmi.parseRow? row with
    | none => simpa using ih m
    | some named =>
      obtain ⟨sensorId, listed⟩ := named
      refine (ih _).trans ?_
      rw [sensorId?_insert]
      by_cases hd : d' = d <;> by_cases hnumber : number = listed.lowerAscii <;>
        simp [hd, hnumber]

section Digits

variable {digits : List Char} (hne : digits ≠ []) (hhex : ∀ c ∈ digits, Number.isHexDigit c = true)

include hne hhex

theorem nameIn?_eq_some_iff {row : List Char} {sensorId : String} :
    nameIn? (.ofList (lower digits)) row = some sensorId ↔ Ipmi.RowNames row sensorId digits := by
  rw [← Ipmi.parseRow?_eq_some_iff hne hhex, nameIn?]
  cases hrow : Ipmi.parseRow? row with
  | none => simp
  | some named =>
    obtain ⟨name, listed⟩ := named
    simp only [Option.bind_some, Option.ite_none_right_eq_some, Option.some_inj, Prod.mk.injEq,
      Ipmi.lowerAscii_of_parseRow? hrow]
    grind

theorem nameIn?_eq_none_iff {row : List Char} :
    nameIn? (.ofList (lower digits)) row = none ↔ ∀ sensorId, ¬ Ipmi.RowNames row sensorId digits := by
  simp only [Option.eq_none_iff_forall_ne_some, ne_eq, nameIn?_eq_some_iff hne hhex]

/-- The last of the rows that name a number gives the name. -/
theorem lastName?_eq_some_iff {text sensorId : String} :
    lastName? (.ofList (lower digits)) (lines text.toList) = some sensorId ↔
      Ipmi.LastNames text sensorId digits := by
  simp only [lastName?, List.findSome?_eq_some_iff, nameIn?_eq_some_iff hne hhex,
    nameIn?_eq_none_iff hne hhex, Ipmi.LastNames, linesAre_iff]
  constructor
  · rintro ⟨after, row, before, hrows, hrow, hafter⟩
    refine ⟨before.reverse, row, after.reverse, ?_, hrow, by simpa using hafter⟩
    rw [← List.reverse_reverse (lines text.toList), hrows]
    simp
  · rintro ⟨before, row, after, hrows, hrow, hafter⟩
    exact ⟨after.reverse, row, before.reverse, by simp [hrows], hrow, by simpa using hafter⟩

theorem lastName?_eq_none_iff {text : String} :
    lastName? (.ofList (lower digits)) (lines text.toList) = none ↔ Ipmi.NoRowNames text digits := by
  simp [lastName?, nameIn?_eq_none_iff hne hhex, Ipmi.NoRowNames, linesAre_iff]

end Digits

/-! ## Loading -/

/-- The sensors with those of a listing that has been asked for; a failure adds none. -/
def addAnswer (m : SensorNumbers) (d : Device) : Except SourceError String → SensorNumbers
  | .ok text => m.addListing d text
  | .error _ => m

/-- The name that an answer to the request for a listing gives to a number. -/
def answeredName? (number : String) : Except SourceError String → Option String
  | .ok text => lastName? number (lines text.toList)
  | .error _ => none

theorem sensorId?_addAnswer (m : SensorNumbers) (d d' : Device) (r : Except SourceError String)
    (number : String) : (m.addAnswer d r).sensorId? d' number =
      (if d' = d then answeredName? number r else none).or (m.sensorId? d' number) := by
  cases r with
  | ok text => exact m.sensorId?_addListing d d' text number
  | error e => simp [addAnswer, answeredName?]

variable {σ : Type} {handle : (r : Request) → StateM σ r.Answer}
  {listing : Device → Except SourceError String}
  (hlisting : ∀ d t, (handle (.ipmi (.sensorsOfType d.name)) t).1 = listing d)

include hlisting

/-- A missing management tool ends the loading. -/
theorem run_loadTypes_missing {d : Device} {text : String}
    (hmissing : listing d = .error (.dependencyMissing text)) (ds : List Device) (m : SensorNumbers)
    (t : σ) : ((loadTypes (d :: ds) m).run handle t).1 = .error (.dependencyMissing text) := by
  have hasked : (Request.ipmi (.sensorsOfType d.name)).ask.run handle t =
      handle (.ipmi (.sensorsOfType d.name)) t := rfl
  rw [loadTypes, Program.bind_eq, run_bind_state, hasked, hlisting, hmissing]
  rfl

/-- Any other answer is taken in, and the next device type follows. -/
theorem run_loadTypes_next {d : Device}
    (hthere : ¬ ∃ text, listing d = .error (.dependencyMissing text)) (ds : List Device)
    (m : SensorNumbers) (t : σ) : ∃ t', ((loadTypes (d :: ds) m).run handle t).1 =
      ((loadTypes ds (m.addAnswer d (listing d))).run handle t').1 := by
  refine ⟨(handle (.ipmi (.sensorsOfType d.name)) t).2, ?_⟩
  have hasked : (Request.ipmi (.sensorsOfType d.name)).ask.run handle t =
      handle (.ipmi (.sensorsOfType d.name)) t := rfl
  rw [loadTypes, Program.bind_eq, run_bind_state, hasked, hlisting]
  cases hd : listing d with
  | ok text => rfl
  | error e =>
    have hterminal : ¬ e.isTerminal = true := by
      rw [SourceError.isTerminal_iff]
      rintro ⟨text, rfl⟩
      exact hthere ⟨text, hd⟩
    simp only [if_neg hterminal]
    rfl

/-- Loading fails exactly if a listing finds the management tool missing. -/
theorem run_loadTypes_error (ds : List Device) (m : SensorNumbers) (t : σ) :
    (∃ e, ((loadTypes ds m).run handle t).1 = .error e) ↔
      ∃ d ∈ ds, ∃ text, listing d = .error (.dependencyMissing text) := by
  induction ds generalizing m t with
  | nil =>
    change (∃ e, Except.ok m = .error e) ↔ _
    simp
  | cons d ds ih =>
    simp only [List.mem_cons, exists_eq_or_imp]
    by_cases hmissing : ∃ text, listing d = .error (.dependencyMissing text)
    · obtain ⟨text, htext⟩ := hmissing
      exact iff_of_true ⟨_, run_loadTypes_missing hlisting htext ds m t⟩ (.inl ⟨text, htext⟩)
    · obtain ⟨t', hrun⟩ := run_loadTypes_next hlisting hmissing ds m t
      rw [hrun, ih, or_iff_right hmissing]

theorem run_loadTypes_ok {ds : List Device} {m m' : SensorNumbers} {t : σ}
    (h : ((loadTypes ds m).run handle t).1 = .ok m') (d : Device) (number : String) :
    m'.sensorId? d number =
      (if d ∈ ds then answeredName? number (listing d) else none).or (m.sensorId? d number) := by
  induction ds generalizing m t with
  | nil =>
    cases h
    simp
  | cons d₀ ds ih =>
    by_cases hmissing : ∃ text, listing d₀ = .error (.dependencyMissing text)
    · obtain ⟨text, htext⟩ := hmissing
      rw [run_loadTypes_missing hlisting htext] at h
      cases h
    · obtain ⟨t', hrun⟩ := run_loadTypes_next hlisting hmissing ds m t
      rw [ih (hrun ▸ h), sensorId?_addAnswer]
      by_cases heq : d = d₀
      · subst heq
        by_cases hmem : d ∈ ds <;> cases answeredName? number (listing d) <;> simp [hmem]
      · simp [heq]

end SensorNumbers

/-! ## Entries -/

theorem Device.mem_all (d : Device) : d ∈ Device.all := by
  cases d <;> decide

theorem LogEntry.numbered_of_parse {line : String} {e : LogEntry} {d : Device}
    {type digits : List Char} (h : LogEntry.parse line = .ok e)
    (hlabel : e.deviceLabel.toList = type ++ numberMark ++ digits) (htype : trim type = d.name.toList)
    (hne : digits ≠ []) (hhex : ∀ c ∈ digits, Number.isHexDigit c = true) :
    Device.parse? e.deviceType = some d ∧ e.deviceNumber = some (.ofList (lower digits)) := by
  obtain ⟨hdevice, hnumber⟩ := LogEntry.splitLabel_of_parse h
  rw [hlabel, LogEntry.splitLabel_numbered hne hhex] at hdevice hnumber
  rw [hdevice, htype, String.ofList_toList]
  exact ⟨d.parse?_name, hnumber⟩

/-- **An entry is about the sensor that the last row with its number names.** Whatever the listings
are, loading them fails exactly if one of the requests has found the management tool missing. Once
they are loaded, an entry of a device type with a number in its label, in any letter case, is about the
sensor of the last row in the listing of that device type that has a name and this number, in any
letter case, with any units behind it. It is about no sensor if there is no such row, or no listing of
that device type. Nothing else counts. -/
theorem numbered_entry_names_sensor {σ : Type} (handle : (r : Request) → StateM σ r.Answer)
    (listing : Device → Except SourceError String)
    (hlisting : ∀ d t, (handle (.ipmi (.sensorsOfType d.name)) t).1 = listing d) (t : σ) :
    let loaded := (SensorNumbers.load.run handle t).1
    ((∃ e, loaded = .error e) ↔ ∃ d text, listing d = .error (.dependencyMissing text)) ∧
      ∀ m, loaded = .ok m →
        ∀ (d : Device) (line : String) (e : LogEntry) (type digits : List Char),
          LogEntry.parse line = .ok e → e.deviceLabel.toList = type ++ LogEntry.numberMark ++ digits →
          trim type = d.name.toList → digits ≠ [] → (∀ c ∈ digits, Number.isHexDigit c = true) →
          ∃ number, e.deviceNumber = some number ∧
            (∀ sensorId, m.sensorId? d number = some sensorId ↔
              ∃ text, listing d = .ok text ∧ Ipmi.LastNames text sensorId digits) ∧
            (m.sensorId? d number = none ↔
              ∀ text, listing d = .ok text → Ipmi.NoRowNames text digits) ∧
            ∀ s : LogSensor, s.numbers = m →
              s.target? e = (m.sensorId? d number).map fun sensorId => (d, sensorId) := by
  intro loaded
  constructor
  · have herror := SensorNumbers.run_loadTypes_error hlisting Device.all .empty t
    simp only [Device.mem_all, true_and] at herror
    exact herror
  · intro m hm d line e type digits hline hlabel htype hne hhex
    obtain ⟨hdevice, hnumber⟩ := LogEntry.numbered_of_parse hline hlabel htype hne hhex
    have hname : m.sensorId? d (.ofList (lower digits)) =
        SensorNumbers.answeredName? (.ofList (lower digits)) (listing d) := by
      have hempty : SensorNumbers.empty.sensorId? d (.ofList (lower digits)) = none := by
        cases d <;> exact Dict.get?_empty _
      rw [SensorNumbers.run_loadTypes_ok hlisting hm, if_pos d.mem_all, hempty, Option.or_none]
    refine ⟨_, hnumber, ?_, ?_, ?_⟩
    · intro sensorId
      rw [hname]
      cases listing d with
      | ok text => simp [SensorNumbers.answeredName?, SensorNumbers.lastName?_eq_some_iff hne hhex]
      | error e => simp [SensorNumbers.answeredName?]
    · rw [hname]
      cases listing d with
      | ok text => simp [SensorNumbers.answeredName?, SensorNumbers.lastName?_eq_none_iff hne hhex]
      | error e => simp [SensorNumbers.answeredName?]
    · rintro s rfl
      cases hid : s.numbers.sensorId? d (.ofList (lower digits)) <;>
        simp [LogSensor.target?, hdevice, hnumber, hid]

namespace ListingTrial

/-- Two rows for one number, a row without a name, one without digits, and one without columns. -/
def fans : String :=
  "Sys Fan 1A | 3fh | ok | 29.4 | 5332 RPM\r\n | 3fh | ok\n Sys Fan 2B |\t3Fhh\nSys Fan 3A | h\n3fh"

/-- The power units have a sensor with the same number; the power supplies are not listed. -/
def listing : Device → Except SourceError String
  | .fan => .ok fans
  | .powerSupply => .error (.commandFailed "sdr type" 1 "busy")
  | .powerUnit => .ok "Pwr Unit Status | 3fh | ok"
  | .driveSlot => .ok ""

/-- A controller with these listings and nothing else, and no files. -/
def handle : (r : Request) → StateM Unit r.Answer
  | .ipmi (.sensorsOfType deviceType) =>
    pure (((Device.parse? deviceType).map listing).getD (.error (.inputOutput "no such type")))
  | .ipmi _ => pure (.error (.inputOutput "no reply"))
  | .records _ _ => pure (.ok [])
  | .file (.makeFolder _) => pure true
  | .file (.load _) => pure .absent
  | .file (.replace _ _) => pure .written
  | .clock => pure "0"
  | .salt => pure ""
  | .deliver _ => pure true

theorem handle_listing (d : Device) (t : Unit) :
    (handle (.ipmi (.sensorsOfType d.name)) t).1 = listing d := by
  cases d <;> rfl

def entry : LogEntry := ⟨0x1af, "04/20/2023", "12:00:00", "Fan #0x3F", "Fan", some "3f",
  "Upper Critical going high", .asserted⟩

def line : String := "1af | 04/20/2023 | 12:00:00 | Fan #0x3F | Upper Critical going high | Asserted"

end ListingTrial

open ListingTrial in
/-- The last of two rows counts, whatever stands beside them. -/
theorem numbered_entry_names_last_fan : (∀ d t,
      (handle (.ipmi (.sensorsOfType d.name)) t).1 = listing d) ∧
    LogEntry.parse line = .ok entry ∧
    ∃ m, (SensorNumbers.load.run handle ()).1 = .ok m ∧ m.sensorId? .fan "3f" = some "Sys Fan 2B" := by
  have hline : LogEntry.parse line = .ok entry := by decide +kernel
  obtain ⟨hfails, hnames⟩ := numbered_entry_names_sensor handle listing handle_listing ()
  have hthere : ¬ ∃ d text, listing d = .error (.dependencyMissing text) := by
    rintro ⟨d, text, h⟩
    cases d <;> cases h
  refine ⟨handle_listing, hline, ?_⟩
  cases hload : (SensorNumbers.load.run handle ()).1 with
  | error e => exact absurd (hfails.1 ⟨e, hload⟩) hthere
  | ok m =>
    have hhex : ∀ c ∈ "3F".toList, Number.isHexDigit c = true := List.all_eq_true.1 (by decide)
    obtain ⟨number, hnumber, hsome, -, -⟩ := hnames m hload .fan line entry "Fan".toList "3F".toList
      hline (by decide) (by decide +kernel) (by decide) hhex
    have hlast : Ipmi.LastNames fans "Sys Fan 2B" "3F".toList :=
      (SensorNumbers.lastName?_eq_some_iff (by decide) hhex).1 (by decide +kernel)
    cases hnumber
    exact ⟨m, rfl, (hsome _).2 ⟨fans, rfl, hlast⟩⟩

end HealthAgent
