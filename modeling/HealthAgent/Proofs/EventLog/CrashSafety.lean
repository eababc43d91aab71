import HealthAgent.Proofs.EventLog.Replies
/-!
# No entry is lost in a crash

While nobody clears the log, sensors may come and go, be cut short between any two acts, and meet any
failure of the controller or of the state files. The number in the cursor file never points behind an
entry that was not handled.

Results:
* `Machine.Reachable.uncleared_sound`: every machine of such a run is sound.
* `cursor_vouches`: what the cursor file points behind has been handled, and so has all that a plan
  leaves out.
-/
namespace HealthAgent
open Program

/-- The log gets more entries and is not cleared; every request but the clearing of the log may be
answered in any way, a failure included. -/
def Rules.uncleared : Rules where
  drifts := World.Grows
  admits _ a r := (Event.mk a r).clears = false

theorem Rules.uncleared_orderly : Rules.uncleared.Orderly := fun _ _ h => h

theorem Rules.uncleared_tidy (st : LogStore) : Rules.uncleared.Tidy st := by
  intro w text h
  cases h

theorem Rules.uncleared_keeps {w v : World} {a : Act} {r : a.Answer} (h : uncleared.Step w a r v)
    (hw : ∀ ev ∈ w.history, ev.clears = false) : ∀ ev ∈ v.history, ev.clears = false :=
  h.unclear uncleared_orderly (fun _ _ _ hadmits => hadmits) hw

theorem Machine.Step.uncleared {starts : World → Prop} {folder : String} {m m' : Machine}
    (h : Step .uncleared starts folder m m') (hm : ∀ ev ∈ m.world.history, ev.clears = false) :
    ∀ ev ∈ m'.world.history, ev.clears = false := by
  cases h with
  | drift hgrows =>
    rw [hgrows.history]
    exact hm
  | start config context zone may runs =>
    exact runs.keeps (fun _ _ _ _ hw hs => Rules.uncleared_keeps hs hw) hm
  | poll now runs => exact runs.keeps (fun _ _ _ _ hw hs => Rules.uncleared_keeps hs hw) hm
  | stop => exact hm

theorem Machine.Reachable.uncleared_sound {starts : World → Prop} {folder : String} {m : Machine}
    (h : Reachable .uncleared starts folder m) :
    m.Sound folder ∧ ∀ ev ∈ m.world.history, ev.clears = false := by
  induction h with
  | init hcursor hpending hhistory hinc =>
    refine ⟨.init hpending hcursor hhistory hinc, ?_⟩
    rw [hhistory]
    simp
  | step before hstep ih =>
    obtain ⟨hsound, hclear⟩ := ih
    refine ⟨hsound.step Rules.uncleared_orderly (Rules.uncleared_tidy _) ?_ hstep,
      hstep.uncleared hclear⟩
    intro _
    refine .inr fun hcleared => ?_
    obtain ⟨ev, hev, htrue⟩ := hcleared
    rw [hclear ev hev] at htrue
    cases htrue

theorem Trial.keeping_uncleared : keeping.Obey .uncleared :=
  fun w a => ⟨World.Grows.refl w, keeping_clears w a⟩

/-- A machine whose sensor crashed in its first cycle, between the writing of the cursor and the
emptying of the buffer, and has been started again. -/
def Trial.crashed : Machine :=
  (((fresh (line "1" "" ++ "noise\n" ++ line "2" "")).launch keeping 100 "state" config context
    .utc).cycle keeping 7 0).launch keeping 100 "state" config context .utc

/-- What the cursor file points behind has been handled, and so has all that a plan leaves out. -/
theorem cursor_vouches {folder : String} {m : Machine}
    (h : Machine.Reachable .uncleared (fun _ => True) folder m) :
    (m.world.cursor (.inFolder folder) = 0 ∨
      ∃ seen e rest, m.world.entries = seen ++ e :: rest ∧
        e.index = m.world.cursor (.inFolder folder) ∧
        ∀ x ∈ seen ++ [e], x ∈ handled m.world.history) ∧
    ∀ before es p, before ++ [⟨.plan es p, ()⟩] <+: m.world.history →
      ∀ x ∈ es, x ∈ p.unseen.map (·.entry) ∨ x ∈ handled before := by
  obtain ⟨⟨hworld, -⟩, hclear⟩ := h.uncleared_sound
  have hreset : m.world.Reset (.inFolder folder) := by
    refine .inr fun hcleared => ?_
    obtain ⟨ev, hev, htrue⟩ := hcleared
    rw [hclear ev hev] at htrue
    cases htrue
  obtain ⟨hc, hall⟩ := hworld.covers hreset
  refine ⟨hc.imp_right ?_, ?_⟩
  · intro he
    obtain ⟨e, he, hindex⟩ := he
    obtain ⟨seen, rest, heq⟩ := List.append_of_mem he
    refine ⟨seen, e, rest, heq, hindex, ?_⟩
    intro x hx
    have hmem : x ∈ m.world.entries := by
      rw [heq]
      rcases List.mem_append.1 hx with hseen | hlast
      · exact List.mem_append_left _ hseen
      · exact List.mem_append_right _ (List.mem_singleton.1 hlast ▸ List.mem_cons_self)
    have hle : x.index ≤ e.index := by
      have hcross := (List.pairwise_append.1 (heq ▸ hworld.increasing.1)).2.2
      rcases List.mem_append.1 hx with hseen | hlast
      · exact UInt64.le_of_lt (hcross x hseen e List.mem_cons_self)
      · rw [List.mem_singleton.1 hlast]
        exact UInt64.le_refl _
    rw [hindex] at hle
    exact handled_sinceClear_subset _ (hall x hmem hle)
  · intro before es p hpre x hx
    exact (hworld.plans before es p hpre x hx).imp_right fun hmem =>
      handled_sinceClear_subset before hmem

theorem cursor_vouches_crashed : ∃ m, Machine.Reachable .uncleared (fun _ => True) "state" m ∧
    m.world.cursor (.inFolder "state") = 2 ∧ m.world.buffer (.inFolder "state") ≠ [] ∧
      ∃ seen e rest, m.world.entries = seen ++ e :: rest ∧ e.index = 2 ∧
        ∀ x ∈ seen ++ [e], x ∈ handled m.world.history := by
  have hcursor : Trial.crashed.world.cursor (.inFolder "state") = 2 := by decide +kernel
  have hbuffer : Trial.crashed.world.buffer (.inFolder "state") ≠ [] := by decide +kernel
  have hinc : Increasing (LogEntry.parseLines
      (Trial.line "1" "" ++ "noise\n" ++ Trial.line "2" "").writtenLines) := by decide +kernel
  have hfresh := Trial.fresh_reachable hinc .uncleared (fun _ => True) "state"
  have hobey := Trial.keeping_uncleared
  have hreach : Machine.Reachable .uncleared (fun _ => True) "state" Trial.crashed :=
    (((hfresh.launch hobey trivial Trial.config Trial.context .utc).cycle hobey 0).launch hobey
      trivial Trial.config Trial.context .utc)
  obtain ⟨hvouched, -⟩ := cursor_vouches hreach
  rw [hcursor] at hvouched
  refine ⟨Trial.crashed, hreach, hcursor, hbuffer, ?_⟩
  rcases hvouched with hzero | hentry
  · exact absurd hzero (by decide)
  · exact hentry

end HealthAgent
