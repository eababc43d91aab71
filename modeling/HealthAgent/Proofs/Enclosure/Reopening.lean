import HealthAgent.Proofs.Enclosure.Durability
import HealthAgent.Proofs.Program.Exchanges
/-!
# The file of a fault map, opened again

A map that was saved is loaded as it was, by a store that is opened later and does not touch the
file; a save that fails leaves the file, and what is loaded from it, as they were.

The file may hold anything else when the store is opened. If it holds a text, the store opens: the
map is the one that the text spells, or empty where it spells none, and then the file holds this
map. A file that holds no text at all, because its bytes are no UTF-8, is not replaced: it cannot be
read, so the store does not open and no sensor starts, until someone else replaces the file.

Results:
* `Weather.run_load_of_holds`, `Weather.run_reopen_of_holds`: a file that holds a map is read, and
  nothing more.
* `saved_map_reloads`: what a save leaves to be loaded.
* `FaultMap.decode?_of_isAllBlank`: a blank text spells no map.
* `Site.memory_of_text`, `Site.of_noText`: what is remembered by a file that holds a text, and by
  one that holds none.
* `Chance.run_reopen`: what a store finds that is opened in a folder that can be used.
* `reopened_iff_text`: which files the store opens, and with which map.
* `foreign_byte_bars_sensor`: a byte that is in no text keeps the sensor from starting.
-/
namespace HealthAgent
open Program State Json

def Request.Replaces : Request → Prop
  | .file (.replace _ _) => True
  | _ => False

/-! ## Files that hold a map -/

namespace Weather

variable (w : Weather) (given : Except SourceError (List Json)) {m : FaultMap} {t : Site × Nat}

theorem run_readText (path : String) (t : Site × Nat) :
    (readText path).run (w.answer given) t = (t.1.text path, t.1, t.2 + 1) := by
  rw [readText_eq, Site.text_eq]
  rfl

theorem exchanges_readText (path : String) (t : Site × Nat) :
    (readText path).exchanges (w.answer given) t =
      [⟨.file (.load path), t.1.content path⟩] := by
  rw [readText_eq]
  rfl

theorem run_load_of_holds {s : FaultStore} (h : t.1.Holds s.path m) :
    s.load.run (w.answer given) t = (.ok m, t.1, t.2 + 1) ∧
      s.load.exchanges (w.answer given) t = [⟨.file (.load s.path), t.1.content s.path⟩] := by
  obtain ⟨text, htext, hblank, hdecode⟩ := h
  simp only [FaultStore.load, bind_eq, run_bind_state, exchanges_bind, run_readText,
    exchanges_readText, htext, Option.getD_some, hblank, hdecode]
  exact ⟨rfl, rfl⟩

theorem run_openIn_of_holds {folder name : String} (h : t.1.Holds (joinPath folder name) m) :
    (FaultStore.openIn folder name).run (w.answer given) t =
        (.ok ⟨joinPath folder name⟩, t.1, t.2 + 2) ∧
      (FaultStore.openIn folder name).exchanges (w.answer given) t =
        [⟨.file (.makeFolder folder), true⟩,
          ⟨.file (.load (joinPath folder name)), t.1.content (joinPath folder name)⟩] := by
  obtain ⟨text, htext, hblank, -⟩ := h
  have hfolder : (ensureFolder folder).run (w.answer given) t = (.ok (), t.1, t.2 + 1) := rfl
  have hmade : (ensureFolder folder).exchanges (w.answer given) t =
    [⟨.file (.makeFolder folder), true⟩] := rfl
  simp only [FaultStore.openIn, bind_eq, run_bind_state, exchanges_bind, hfolder, hmade,
    run_readText, exchanges_readText, htext, Option.getD_some, hblank]
  exact ⟨rfl, rfl⟩

/-- A store that is opened on a file that holds a map, and loads it. -/
theorem run_reopen_of_holds {folder name : String} (h : t.1.Holds (joinPath folder name) m) :
    (FaultStore.reopen folder name).run (w.answer given) t =
        (.ok (⟨joinPath folder name⟩, m), t.1, t.2 + 3) ∧
      ∀ x ∈ (FaultStore.reopen folder name).exchanges (w.answer given) t, ¬x.request.Replaces := by
  obtain ⟨hopen, hopening⟩ := w.run_openIn_of_holds given h
  obtain ⟨hload, hloading⟩ := w.run_load_of_holds given (s := ⟨joinPath folder name⟩)
    (t := (t.1, t.2 + 2)) h
  simp only [FaultStore.reopen, bind_eq, run_bind_state, exchanges_bind, hopen, hopening, hload,
    hloading]
  refine ⟨rfl, fun x hx => ?_⟩
  simp only [pure_eq, Program.exchanges, List.append_nil, List.cons_append, List.nil_append,
    List.mem_cons, List.not_mem_nil, or_false] at hx
  rcases hx with rfl | rfl | rfl <;> exact id

/-- A save succeeds exactly if the file could be replaced; otherwise it leaves the site. -/
theorem run_save (s : FaultStore) (m : FaultMap) (t : Site × Nat) :
    (((s.save m).run (w.answer given) t).1 = .ok () ↔ w.replaced t.2 = .written) ∧
      ((s.save m).run (w.answer given) t).2.1 =
        if w.replaced t.2 = .written then t.1.write s.path m.encode.toUTF8 else t.1 := by
  rw [s.save_eq]
  exact ⟨WriteAnswer.result_eq_ok s.path _, rfl⟩

end Weather

/-- **A saved map is loaded as it was.** Whatever the map is, a save succeeds exactly if the file
could be replaced. If it does, the map is loaded as it was, and a store that is opened on the file
loads it too, without a request to replace the file, which it leaves as it is. If it does not, the
site is as it was, and what is loaded is what would have been loaded. -/
theorem saved_map_reloads (w later : Weather) (given given' : Except SourceError (List Json))
    (folder name : String) (m : FaultMap) (t : Site × Nat) :
    let store : FaultStore := ⟨joinPath folder name⟩
    let saved := (store.save m).run (w.answer given) t
    (saved.1 = .ok () ↔ w.replaced t.2 = .written) ∧
    (saved.1 = .ok () → ∀ n,
      store.load.run (later.answer given') (saved.2.1, n) = (.ok m, saved.2.1, n + 1) ∧
      (FaultStore.reopen folder name).run (later.answer given') (saved.2.1, n) =
        (.ok (store, m), saved.2.1, n + 3) ∧
      ∀ x ∈ (FaultStore.reopen folder name).exchanges (later.answer given') (saved.2.1, n),
        ¬x.request.Replaces) ∧
    (saved.1 ≠ .ok () → saved.2.1 = t.1 ∧ ∀ n,
      store.load.run (later.answer given') (saved.2.1, n) =
        store.load.run (later.answer given') (t.1, n)) := by
  intro store saved
  obtain ⟨hsaved, hsite⟩ := w.run_save given store m t
  refine ⟨hsaved, fun hok n => ?_, fun hfailed => ?_⟩
  · have hholds : saved.2.1.Holds store.path m := by
      rw [hsite, if_pos (hsaved.1 hok)]
      exact Site.holds_write _ _ _
    exact ⟨(later.run_load_of_holds given' (t := (saved.2.1, n)) hholds).1,
      later.run_reopen_of_holds given' (t := (saved.2.1, n)) hholds⟩
  · have hsame : saved.2.1 = t.1 := by rw [hsite, if_neg (mt hsaved.2 hfailed)]
    exact ⟨hsame, fun n => by rw [hsame]⟩

namespace FruTrial

/-- Requests that are all answered, and attempts to replace a file that all succeed. -/
def calm : Weather := { luck with replaced := fun _ => .written }

/-- A record of one unit under the identity of another, which holds a quotation mark, a backslash
and a control character. -/
def crossed : FaultMap := Dict.insert ∅ "\"\\\x01" ⟨"0", .degraded, .missing⟩

end FruTrial

open FruTrial in
/-- The record is loaded as it was saved; after a save that failed, the empty map of the file is. -/
theorem saved_map_reloads_crossed :
    let saved := (sensor.store.save crossed).run (calm.answer (.ok [])) (site, 0)
    let failed := (sensor.store.save crossed).run (storm.answer (.ok [])) (site, 0)
    saved.1 = .ok () ∧ (sensor.store.load.run (calm.answer (.ok [])) saved.2).1 = .ok crossed ∧
      failed.1 ≠ .ok () ∧ (sensor.store.load.run (calm.answer (.ok [])) failed.2).1 = .ok ∅ := by
  intro saved failed
  obtain ⟨hsaved, hreloads, -⟩ := saved_map_reloads calm calm (.ok []) (.ok []) "state"
    FruKind.controller.fileName crossed (site, 0)
  obtain ⟨hfailed, -, hkeeps⟩ := saved_map_reloads storm calm (.ok []) (.ok []) "state"
    FruKind.controller.fileName crossed (site, 0)
  have hrefused : failed.1 ≠ .ok () := mt hfailed.1 (by decide)
  have hempty : (sensor.store.load.run (calm.answer (.ok [])) (site, failed.2.2)).1 = .ok ∅ :=
    congrArg Prod.fst (calm.run_load_of_holds (.ok []) (t := (site, failed.2.2)) sensor_kept).1
  refine ⟨hsaved.2 rfl, congrArg Prod.fst (hreloads (hsaved.2 rfl) _).1, hrefused, ?_⟩
  exact (congrArg Prod.fst ((hkeeps hrefused).2 _)).trans hempty

/-! ## Files that hold anything -/

theorem FaultMap.decode?_of_isAllBlank {text : String} (h : text.isAllBlank = true) :
    decode? text = none := by
  have hblank : ∀ c ∈ skipBlank text.toList, Text.isBlank c = true := fun c hc =>
    List.all_eq_true.1 h c ((List.dropWhile_suffix _).mem hc)
  have houtline : outline? text.toList = none := by
    unfold outline?
    split
    · next hfront => exact absurd (hblank '[' (by simp [hfront])) (by decide)
    · next hfront => exact absurd (hblank '\x7b' (by simp [hfront])) (by decide)
    · rfl
  rw [decode?, houtline]

namespace Site

variable {site : Site} {path : String} {bytes : ByteArray}

theorem text_of_files (h : site.files path = some bytes) :
    site.text path = (ReadAnswer.content bytes).text path := by
  rw [text_eq, content, h]

/-- A text is remembered as the map that it spells, or as none. -/
theorem memory_of_text {text : String} (h : site.files path = some bytes)
    (htext : String.fromUTF8? bytes = some text) :
    site.memory path = .ok ((FaultMap.decode? text).getD ∅) := by
  simp only [memory, text_of_files h, ReadAnswer.text, htext, Except.map, Option.getD_some]
  by_cases hblank : text.isAllBlank = true
  · rw [if_pos hblank, FaultMap.decode?_of_isAllBlank hblank]
    rfl
  · rw [if_neg hblank]

theorem holds_of_text {text : String} {m : FaultMap} (h : site.files path = some bytes)
    (htext : String.fromUTF8? bytes = some text) (hm : FaultMap.decode? text = some m) :
    site.Holds path m := by
  refine ⟨text, ?_, ?_, hm⟩
  · rw [text_of_files h, ReadAnswer.text, htext]
  · by_contra hblank
    rw [FaultMap.decode?_of_isAllBlank (by simpa using hblank)] at hm
    cases hm

/-- A file that holds no text is left alone, and nothing can be loaded from it. -/
theorem of_noText (h : site.files path = some bytes) (hnone : String.fromUTF8? bytes = none) :
    site.memory path = .error (.inputOutput path) ∧ (site.opened path).loaded path = site := by
  have htext : site.text path = .error (.inputOutput path) := by
    rw [text_of_files h, ReadAnswer.text, hnone]
  simp [memory, opened, loaded, htext, Except.map]

/-- Something can be loaded from a file exactly if the file holds a text. -/
theorem exists_memory_iff (h : site.files path = some bytes) :
    (∃ m, site.memory path = .ok m) ↔ ∃ text, String.fromUTF8? bytes = some text := by
  cases htext : String.fromUTF8? bytes with
  | none => simp [(of_noText h htext).1]
  | some text => simp [memory_of_text h htext]

end Site

theorem exists_map_eq_ok {ε α β : Type} (f : α → β) (r : Except ε α) :
    (∃ b, r.map f = .ok b) ↔ ∃ a, r = .ok a := by
  cases r <;> simp [Except.map]

theorem Chance.run_reopen (c : Chance) (given : Except SourceError (List Json))
    (folder name : String) (t : Site × Nat) :
    ((FaultStore.reopen folder name).run (c.answer given) t).1 =
        (t.1.memory (joinPath folder name)).map (⟨joinPath folder name⟩, ·) ∧
      ((FaultStore.reopen folder name).run (c.answer given) t).2.1 =
        (t.1.opened (joinPath folder name)).loaded (joinPath folder name) :=
  (FaultStore.ensures_reopen (I := fun _ => True) trivial folder name trivial trivial).run
    (c.step_answer given)

/-- **Which files the store opens.** In a folder that can be used, a store opens on a file exactly
if the file holds a text, whatever the text is. It then loads the map that the text spells, or the
empty one if it spells none, and the file is left holding what was loaded; a text that spells a map
is not touched. On a file that holds no text the store fails, and leaves the file as it is. The
sensor of a category, whose store this is, starts exactly if the store opens. -/
theorem reopened_iff_text (c : Chance) (given : Except SourceError (List Json))
    (folder name : String) (t : Site × Nat) (bytes : ByteArray)
    (hbytes : t.1.files (joinPath folder name) = some bytes) :
    let path := joinPath folder name
    let reopened := (FaultStore.reopen folder name).run (c.answer given) t
    ((∃ found, reopened.1 = .ok found) ↔ ∃ text, String.fromUTF8? bytes = some text) ∧
    (∀ text, String.fromUTF8? bytes = some text →
      reopened.1 = .ok (⟨path⟩, (FaultMap.decode? text).getD ∅) ∧
      reopened.2.1.Holds path ((FaultMap.decode? text).getD ∅) ∧
      (FaultMap.decode? text ≠ none → reopened.2.1 = t.1)) ∧
    (String.fromUTF8? bytes = none →
      reopened.1 = .error (.inputOutput path) ∧ reopened.2.1 = t.1) ∧
    ∀ kind context, name = kind.fileName →
      ((∃ s, (c.start kind folder context t).1 = .ok s) ↔ ∃ found, reopened.1 = .ok found) := by
  intro path reopened
  obtain ⟨hfound, hsite⟩ : reopened.1 = (t.1.memory path).map (⟨path⟩, ·) ∧
    reopened.2.1 = (t.1.opened path).loaded path := c.run_reopen given folder name t
  have hopens : (∃ found, reopened.1 = .ok found) ↔ ∃ m, t.1.memory path = .ok m := by
    rw [hfound, exists_map_eq_ok]
  refine ⟨hopens.trans (Site.exists_memory_iff hbytes), fun text htext => ⟨?_, ?_, ?_⟩,
    fun hnone => ⟨?_, ?_⟩, ?_⟩
  · rw [hfound, Site.memory_of_text hbytes htext]
    rfl
  · rw [hsite]
    exact Site.holds_loaded (Site.memory_of_text hbytes htext)
  · intro hspells
    obtain ⟨m, hm⟩ := Option.ne_none_iff_exists'.1 hspells
    have hholds := Site.holds_of_text hbytes htext hm
    rw [hsite, hholds.opened_eq, hholds.loaded_eq]
  · rw [hfound, (Site.of_noText hbytes hnone).1]
    rfl
  · rw [hsite]
    exact (Site.of_noText hbytes hnone).2
  · rintro kind context rfl
    rw [hopens, (start_eq c kind folder context t).1, exists_map_eq_ok]
    rfl

namespace FruTrial

def brokenOff : String := "\x7b\"0\": \x7b"

/-- A site where the file of the map breaks off. -/
def brokenSite : Site := ⟨fun _ => some brokenOff.toUTF8, []⟩

end FruTrial

open FruTrial in
/-- A text that breaks off spells no map: the store opens on it and replaces it. -/
theorem reopened_broken_off :
    brokenSite.files (joinPath "state" "data.json") = some brokenOff.toUTF8 ∧
      ((FaultStore.reopen "state" "data.json").run (luck.answer (.ok [])) (brokenSite, 0)).1 =
        .ok (⟨joinPath "state" "data.json"⟩, ∅) ∧
      ((FaultStore.reopen "state" "data.json").run (luck.answer (.ok [])) (brokenSite, 0)).2.1.Holds
        (joinPath "state" "data.json") ∅ := by
  have hnone : FaultMap.decode? brokenOff = none := by decide +kernel
  obtain ⟨-, htextual, -, -⟩ := reopened_iff_text luck (.ok []) "state" "data.json" (brokenSite, 0)
    brokenOff.toUTF8 rfl
  obtain ⟨hfound, hheld, -⟩ := htextual brokenOff (fromUTF8?_toByteArray brokenOff)
  rw [hnone] at hfound hheld
  exact ⟨rfl, hfound, hheld⟩

open FruTrial in
/-- No text contains the byte 255. Behind the text of the empty map, it keeps the store shut and the
sensor from starting, and the file stays as it is. -/
theorem foreign_byte_bars_sensor :
    let spoilt : Site := ⟨fun _ => some ⟨#[0x7b, 0x7d, 0xff]⟩, []⟩
    ((FaultStore.reopen "state" FruKind.controller.fileName).run (luck.answer (.ok []))
        (spoilt, 0)).1 = .error (.inputOutput sensor.store.path) ∧
      (luck.start .controller "state" context (spoilt, 0)).1 =
        .error (.inputOutput sensor.store.path) ∧
      (luck.start .controller "state" context (spoilt, 0)).2.1 = spoilt :=
  ⟨rfl, rfl, rfl⟩

end HealthAgent
