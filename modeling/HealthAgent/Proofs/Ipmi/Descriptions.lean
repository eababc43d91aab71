import HealthAgent.Ipmi.Properties
import HealthAgent.Proofs.Text.Cuts
import HealthAgent.Proofs.Text.Lines
import HealthAgent.Proofs.Text.Padding
import Mathlib.Data.List.Forall2
/-!
# Descriptions of sensors read back

The management tool describes a sensor by keys, each with a value that may go on over several lines.
A description is read back from the lines that it is written as, however they are indented and
whatever blank lines stand between them. What must not be mistaken is which lines start a key: a line
that goes on has no colon, or, in the description of a sensor record, a bracket.

The lines of one key leave the collected values with one more key, whose value is all that has been
read so far; this is what every line keeps.

Results:
* `Collected.step_between`, `foldl_step_written`: neither indentation nor blank lines count.
* `step_heading`, `step_more`, `foldl_step_lines`: the lines of a key add the key with its value.
* `get?_collect_described`: each key is collected with its value.
* `description_read_back`: both kinds of descriptions are read back.
-/
namespace HealthAgent
open Text

/-- A key of a description and its value, line by line. -/
structure Described where
  key : List Char
  /-- The line of the value that stands behind the key. -/
  first : List Char
  /-- The lines in which the value goes on. -/
  more : List (List Char)

namespace Described

/-- The line that starts a key. -/
def heading (p : Described) : List Char := p.key ++ ' ' :: ':' :: ' ' :: p.first

/-- The lines that a key and its value are written as. -/
def lines (p : Described) : List (List Char) := p.heading :: p.more

def value (p : Described) : String := .ofList (['\n'].intercalate (p.first :: p.more))

/-- Keys and values begin and end with no blank, and there is no colon in a key. -/
structure Tidy (p : Described) : Prop where
  key_trimmed : Trimmed p.key
  key_colonless : ':' ∉ p.key
  first_trimmed : Trimmed p.first
  more_trimmed : ∀ text ∈ p.more, Trimmed text
  more_written : ∀ text ∈ p.more, allBlank text = false

def Bracketed (text : List Char) : Prop := '[' ∈ text ∨ ']' ∈ text

/-- The form of a key of a sensor record: no bracket where the key starts, and where the value goes
on no colon without one. -/
structure RecordForm (p : Described) : Prop where
  key_bare : ¬ Bracketed p.key
  first_bare : ¬ Bracketed p.first
  more_marked : ∀ text ∈ p.more, ':' ∉ text ∨ Bracketed text

/-- The form of a key of a threshold sensor: no colon where the value goes on. -/
def SensorForm (p : Described) : Prop := ∀ text ∈ p.more, ':' ∉ text

/-- The value that a description tells of a key. -/
def told (ps : List Described) (k : String) : Option String :=
  (ps.map fun p => (String.ofList p.key, p.value)).lookup k

end Described

namespace SensorProps
open Described

variable {startsKey : List Char → Bool}

/-! ## Indentation and blank lines -/

theorem Collected.step_between {text line : List Char} (h : Between text line)
    (hstarts : startsKey line = startsKey text) (c : Collected) :
    c.step startsKey line = c.step startsKey text := by
  rw [Collected.step, Collected.step, allBlank_between h, hstarts, trim_between h]
  by_cases hcolon : ':' ∈ text
  · obtain ⟨key, value, rfl, hkey⟩ := List.eq_append_cons_of_mem hcolon
    obtain ⟨before, after, rfl, hbefore, hafter⟩ := h
    have hfront : ':' ∉ before ++ key := by
      have hblank : ':' ∉ before := fun hmem => absurd (hbefore _ hmem) (by decide)
      simp [hblank, hkey]
    have hcut : cutAt ':' (before ++ (key ++ ':' :: value) ++ after) =
        some (before ++ key, value ++ after) := by
      simpa using cutAt_append hfront (value ++ after)
    have hkeyTrim : trim (before ++ key) = trim key :=
      trim_between ⟨before, [], by simp, hbefore, by simp⟩
    have hvalueTrim : trim (value ++ after) = trim value :=
      trim_between ⟨[], after, by simp, by simp, hafter⟩
    rw [hcut, cutAt_append hkey]
    cases startsKey (key ++ ':' :: value) with
    | true => simp [hkeyTrim, hvalueTrim]
    | false => rfl
  · have hline : ':' ∉ line := fun hmem =>
      (h.mem hmem).elim (fun hblank => absurd hblank (by decide)) hcolon
    rw [cutAt_eq_none hcolon, cutAt_eq_none hline]

theorem foldl_step_between
    (hstarts : ∀ {text line}, Between text line → startsKey line = startsKey text)
    {texts lines : List (List Char)} (h : List.Forall₂ Between texts lines) (c : Collected) :
    lines.foldl (Collected.step startsKey) c = texts.foldl (Collected.step startsKey) c := by
  induction h generalizing c with
  | nil => rfl
  | cons hline _ ih => rw [List.foldl_cons, List.foldl_cons, c.step_between hline (hstarts hline), ih]

theorem foldl_step_written (ls : List (List Char)) (c : Collected) :
    (ls.filter (!allBlank ·)).foldl (Collected.step startsKey) c =
      ls.foldl (Collected.step startsKey) c := by
  rw [List.foldl_filter]
  congr 1
  funext c line
  cases hblank : allBlank line <;> simp [Collected.step, hblank]

/-! ## The lines of one key -/

theorem step_heading {p : Described} (hp : p.Tidy) (hstarts : startsKey p.heading = true)
    (c : Collected) : c.step startsKey p.heading =
      ⟨c.pairs.insert (.ofList p.key) (.ofList p.first), some (.ofList p.key)⟩ := by
  have hwritten : allBlank p.heading = false := by
    have hcolon : isBlank ':' = false := by decide
    simp [heading, allBlank, hcolon]
  have hcut : cutAt ':' p.heading = some (p.key ++ [' '], ' ' :: p.first) := by
    have hfront : ':' ∉ p.key ++ [' '] := by simp [hp.key_colonless]
    simpa [heading] using cutAt_append hfront (' ' :: p.first)
  have hkey : trim (p.key ++ [' ']) = p.key :=
    hp.key_trimmed.between (between_of_blank [] [' '] (by simp) rfl rfl)
  have hvalue : trim (' ' :: p.first) = p.first :=
    hp.first_trimmed.between (between_of_blank [' '] [] (by simp) rfl rfl)
  simp [Collected.step, hwritten, hstarts, hcut, hkey, hvalue]

/-- A line that goes on adds to the value of the key before it. -/
theorem step_more {text : List Char} (htrimmed : Trimmed text) (hwritten : allBlank text = false)
    (hstarts : startsKey text = false) (pairs : Dict String) (key : String) (value : List Char) :
    Collected.step startsKey ⟨pairs.insert key (.ofList value), some key⟩ text =
      ⟨pairs.insert key (.ofList (value ++ '\n' :: text)), some key⟩ := by
  have hpairs : (pairs.insert key (.ofList value)).modify key
      (fun v => .ofList (v.toList ++ '\n' :: text)) =
        pairs.insert key (.ofList (value ++ '\n' :: text)) := by
    refine Dict.ext_get? fun k => ?_
    rw [Dict.get?_modify, Dict.get?_insert, Dict.get?_insert]
    split <;> simp
  have htrim : trim text = text := htrimmed
  simp only [Collected.step, hwritten, hstarts, htrim, hpairs, Bool.false_eq_true, if_false]

/-- The lines in which a value goes on make it whole. -/
theorem foldl_step_more {more : List (List Char)} (htrimmed : ∀ text ∈ more, Trimmed text)
    (hwritten : ∀ text ∈ more, allBlank text = false)
    (hstarts : ∀ text ∈ more, startsKey text = false) (pairs : Dict String) (key : String)
    (value : List Char) :
    more.foldl (Collected.step startsKey) ⟨pairs.insert key (.ofList value), some key⟩ =
      ⟨pairs.insert key (.ofList (['\n'].intercalate (value :: more))), some key⟩ := by
  -- The value so far, with the lines to come, is the whole value.
  induction more generalizing value with
  | nil => simp
  | cons text more ih =>
    rw [List.forall_mem_cons] at htrimmed hwritten hstarts
    rw [List.foldl_cons, step_more htrimmed.1 hwritten.1 hstarts.1,
      ih htrimmed.2 hwritten.2 hstarts.2]
    cases more <;> simp [List.intercalate_cons_cons]

/-- The lines of a key add the key with its value. -/
theorem foldl_step_lines {p : Described} (hp : p.Tidy) (hstarts : startsKey p.heading = true)
    (hmore : ∀ text ∈ p.more, startsKey text = false) (c : Collected) :
    p.lines.foldl (Collected.step startsKey) c =
      ⟨c.pairs.insert (.ofList p.key) p.value, some (.ofList p.key)⟩ := by
  rw [Described.lines, List.foldl_cons, step_heading hp hstarts,
    foldl_step_more hp.more_trimmed hp.more_written hmore, value]

/-! ## All keys -/

theorem foldl_step_described {ps : List Described} (hp : ∀ p ∈ ps, p.Tidy)
    (hstarts : ∀ p ∈ ps, startsKey p.heading = true)
    (hmore : ∀ p ∈ ps, ∀ text ∈ p.more, startsKey text = false) (c : Collected) :
    ((ps.flatMap Described.lines).foldl (Collected.step startsKey) c).pairs =
      ps.foldl (fun pairs p => pairs.insert (.ofList p.key) p.value) c.pairs := by
  induction ps generalizing c with
  | nil => rfl
  | cons p ps ih =>
    rw [List.forall_mem_cons] at hp hstarts hmore
    rw [List.flatMap_cons, List.foldl_append, foldl_step_lines hp.1 hstarts.1 hmore.1,
      ih hp.2 hstarts.2 hmore.2, List.foldl_cons]

theorem get?_foldl_described {ps : List Described} (h : (ps.map (·.key)).Nodup) (pairs : Dict String)
    (k : String) : (ps.foldl (fun pairs p => pairs.insert (.ofList p.key) p.value) pairs).get? k =
      (told ps k).or (pairs.get? k) := by
  induction ps generalizing pairs with
  | nil => rfl
  | cons p ps ih =>
    rw [List.map_cons, List.nodup_cons] at h
    rw [List.foldl_cons, ih h.2, Dict.get?_insert]
    by_cases hk : k = .ofList p.key
    · subst hk
      have hlater : told ps (.ofList p.key) = none := by
        rw [told, List.lookup_eq_none_iff]
        rintro ⟨key, value⟩ hmem
        obtain ⟨p', hp', heq⟩ := List.mem_map.1 hmem
        cases heq
        have hne : p.key ≠ p'.key := fun heq => h.1 (heq ▸ List.mem_map_of_mem hp')
        simpa [String.ofList_inj] using hne
      rw [if_pos rfl, hlater]
      simp [told]
    · have hother : (k == String.ofList p.key) = false := by simpa using hk
      simp [told, List.lookup_cons, hk, hother]

theorem get?_collect_described
    (hinside : ∀ {text line}, Between text line → startsKey line = startsKey text)
    {ps : List Described} (hp : ∀ p ∈ ps, p.Tidy) (hkeys : (ps.map (·.key)).Nodup)
    (hstarts : ∀ p ∈ ps, startsKey p.heading = true)
    (hmore : ∀ p ∈ ps, ∀ text ∈ p.more, startsKey text = false) {ls : List (List Char)}
    (hls : List.Forall₂ Between (ps.flatMap Described.lines) (ls.filter (!allBlank ·))) (k : String) :
    (collect startsKey ls).get? k = told ps k := by
  rw [collect, ← foldl_step_written, foldl_step_between hinside hls,
    foldl_step_described hp hstarts hmore, get?_foldl_described hkeys, Dict.get?_empty, Option.or_none]

/-! ## Both kinds of descriptions -/

/-- `LaidOut ps ls`: the lines that are not blank are the lines of the keys, indented in any way. -/
def LaidOut (ps : List Described) (ls : List (List Char)) : Prop :=
  List.Forall₂ Between (ps.flatMap Described.lines) (ls.filter (!allBlank ·))

/-- The properties are those that a description tells: four of them under their names, and all others,
and only those, as static properties. -/
structure Tells (props : SensorProps) (ps : List Described) : Prop where
  sensorId : props.sensorId = told ps "Sensor ID"
  entityId : props.entityId = told ps "Entity ID"
  sensorReading : props.sensorReading = told ps "Sensor Reading"
  statesAsserted : props.statesAsserted = told ps "States Asserted"
  others : ∀ k, props.staticProps.get? k =
    if k ∈ ["Sensor ID", "Entity ID", "Sensor Reading", "States Asserted"] then none else told ps k

theorem tells_ofDict {pairs : Dict String} {ps : List Described}
    (h : ∀ k, pairs.get? k = told ps k) : Tells (ofDict pairs) ps where
  sensorId := h sensorIdName
  entityId := h entityIdName
  sensorReading := h sensorReadingName
  statesAsserted := h statesAssertedName
  others k := by
    rw [get?_staticProps_ofDict, h]
    rfl

theorem contains_heading (p : Described) : p.heading.contains ':' = true := by
  simp [heading]

theorem record_heading {p : Described} (hp : p.RecordForm) :
    (p.heading.contains ':' && !p.heading.contains '[' && !p.heading.contains ']') = true := by
  have hkey := hp.key_bare
  have hfirst := hp.first_bare
  simp only [Bracketed, not_or] at hkey hfirst
  simp [heading, hkey, hfirst]

theorem record_more {p : Described} (hp : p.RecordForm) {text : List Char} (h : text ∈ p.more) :
    (text.contains ':' && !text.contains '[' && !text.contains ']') = false := by
  rcases hp.more_marked text h with hcolon | hopen | hclose
  · simp [hcolon]
  · simp [hopen]
  · simp [hclose]

/-- **What a description tells is read back.** A description has distinct keys, each with a value of
one line or more. The description of a sensor record, in which a line goes on if it has no colon or has
a bracket, and that of a threshold sensor, in which a line goes on if it has no colon, are read as the
properties that they tell, each with the lines of its value, however the lines are indented and
whatever blank lines stand between them. The first line of the second description does not count. -/
theorem description_read_back {ps : List Described} (htidy : ∀ p ∈ ps, p.Tidy)
    (hkeys : (ps.map (·.key)).Nodup) :
    (∀ (text : String) (ls : List (List Char)), (∀ p ∈ ps, p.RecordForm) →
      LinesAre text.toList ls → LaidOut ps ls → Tells (ofRecordText text) ps) ∧
    ∀ (text : String) (opening : List Char) (ls : List (List Char)), (∀ p ∈ ps, p.SensorForm) →
      LinesAre text.toList (opening :: ls) → LaidOut ps ls → Tells (ofSensorText text) ps := by
  constructor
  · intro text ls hform hlines hlaid
    rw [ofRecordText, linesAre_iff.1 hlines]
    refine tells_ofDict (get?_collect_described (fun h => ?_) htidy hkeys ?_ ?_ hlaid)
    · rw [h.contains_eq (by decide), h.contains_eq (by decide), h.contains_eq (by decide)]
    · exact fun p hp => record_heading (hform p hp)
    · exact fun p hp text htext => record_more (hform p hp) htext
  · intro text opening ls hform hlines hlaid
    rw [ofSensorText, linesAre_iff.1 hlines, List.drop_one, List.tail_cons]
    refine tells_ofDict (get?_collect_described (fun h => ?_) htidy hkeys ?_ ?_ hlaid)
    · exact h.contains_eq (by decide)
    · exact fun p _ => contains_heading p
    · exact fun p hp text htext => by simpa using hform p hp text htext

namespace DescriptionTrial

/-- A value that starts empty and goes on over two lines, one with a colon and brackets, and a value
with a colon. -/
def record : List Described := [
  ⟨"Sensor ID".toList, "Sys Fan 1A (0x30)".toList, []⟩,
  ⟨"States Asserted".toList, [], ["Threshold".toList, "[State: Upper]".toList]⟩,
  ⟨"Note".toList, "a : b".toList, []⟩]

/-- Its lines, indented, with blank lines and several line ends. -/
def recordText : String :=
  "Sensor ID : Sys Fan 1A (0x30)\r\n\n  States Asserted : \n\tThreshold\r\n \t\n   [State: Upper]\n" ++
    "Note : a : b"

def recordLines : List (List Char) :=
  ["Sensor ID : Sys Fan 1A (0x30)".toList, [], "  States Asserted : ".toList, "\tThreshold".toList,
    " \t".toList, "   [State: Upper]".toList, "Note : a : b".toList]

/-- A value with brackets in its first line. -/
def sensor : List Described := [
  ⟨"Entity ID".toList, "29.1 [Fan: 1]".toList, ["[rear]".toList]⟩,
  ⟨"Sensor Reading".toList, "5332 (+/- 0) RPM".toList, []⟩]

def sensorText : String :=
  "Locating sensor record: ok\n Entity ID : 29.1 [Fan: 1]\n\n    [rear]\n" ++
    " Sensor Reading : 5332 (+/- 0) RPM\n"

def sensorLines : List (List Char) :=
  [" Entity ID : 29.1 [Fan: 1]".toList, [], "    [rear]".toList,
    " Sensor Reading : 5332 (+/- 0) RPM".toList]

theorem tidy : ∀ p ∈ record ++ sensor, p.Tidy := by
  intro p hp
  simp only [record, sensor, List.cons_append, List.nil_append, List.mem_cons, List.not_mem_nil,
    or_false] at hp
  rcases hp with rfl | rfl | rfl | rfl | rfl <;>
    exact ⟨by decide +kernel, by decide, by decide +kernel, by decide +kernel, by decide +kernel⟩

theorem recordForm : ∀ p ∈ record, p.RecordForm := by
  intro p hp
  simp only [record, List.mem_cons, List.not_mem_nil, or_false] at hp
  rcases hp with rfl | rfl | rfl <;>
    exact ⟨by simp [Bracketed], by simp [Bracketed], by simp [Bracketed]⟩

theorem laidOut_record : LaidOut record recordLines :=
  .cons (between_of_blank [] [] (by decide +kernel) rfl rfl) <|
  .cons (between_of_blank "  ".toList [] (by decide +kernel) rfl rfl) <|
  .cons (between_of_blank ['\t'] [] (by decide +kernel) rfl rfl) <|
  .cons (between_of_blank "   ".toList [] (by decide +kernel) rfl rfl) <|
  .cons (between_of_blank [] [] (by decide +kernel) rfl rfl) .nil

theorem laidOut_sensor : LaidOut sensor sensorLines :=
  .cons (between_of_blank [' '] [] (by decide +kernel) rfl rfl) <|
  .cons (between_of_blank "    ".toList [] (by decide +kernel) rfl rfl) <|
  .cons (between_of_blank [' '] [] (by decide +kernel) rfl rfl) .nil

end DescriptionTrial

open DescriptionTrial in
/-- Values with colons, brackets and an empty first line are read back. -/
theorem description_read_back_trial :
    LaidOut record recordLines ∧ Tells (ofRecordText recordText) record ∧
      (ofRecordText recordText).statesAsserted = some "\nThreshold\n[State: Upper]" ∧
      LaidOut sensor sensorLines ∧ Tells (ofSensorText sensorText) sensor ∧
      (ofSensorText sensorText).entityId = some "29.1 [Fan: 1]\n[rear]" := by
  have hsensorForm : ∀ p ∈ sensor, p.SensorForm := by
    unfold SensorForm
    decide +kernel
  have hrecord := (description_read_back (fun p hp => tidy p (List.mem_append_left _ hp))
    (by decide)).1 recordText recordLines recordForm (linesAre_iff.2 (by decide +kernel))
    laidOut_record
  have hsensor := (description_read_back (fun p hp => tidy p (List.mem_append_right record hp))
    (by decide)).2 sensorText "Locating sensor record: ok".toList sensorLines hsensorForm
    (linesAre_iff.2 (by decide +kernel)) laidOut_sensor
  exact ⟨laidOut_record, hrecord, hrecord.statesAsserted, laidOut_sensor, hsensor, hsensor.entityId⟩

end SensorProps
end HealthAgent
