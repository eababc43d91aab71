import HealthAgent.Proofs.Enclosure.Units
import Mathlib.Data.List.Nodup
/-!
# Snapshots without an order

A snapshot that lists every unit once can be taken in as a whole. A status is about its own unit
alone, and no other status of the snapshot is about that unit: so it tells the change that it would
tell if it came first, and leaves the record that it would leave then. What the snapshot comes to is
therefore the same in any order, and it is at rest when it comes again.

Results:
* `changes_distinct`: every status of such a snapshot is told against the map before the snapshot.
* `observeAll_perm`: the map after such a snapshot is the same in any order.
* `snapshot_settles`: what a repetition and another order of such a snapshot come to.
-/
namespace HealthAgent
namespace FaultMap

variable {m : FaultMap} {statuses shuffled : List FruStatus}

/-- Against a map, the change that each of some statuses would tell if it were the only one. -/
def changesAlone (m : FaultMap) (statuses : List FruStatus) : List (FruStatus × AlertKind) :=
  statuses.filterMap fun s => (m.observe s).2.map (s, ·)

/-- Statuses of other units do not matter to what a status tells. -/
theorem observe_snd_of_ne {s t : FruStatus} (h : t.resourceId ≠ s.resourceId) :
    ((m.observe s).1.observe t).2 = (m.observe t).2 := by
  rw [observe_snd, observe_snd, get?_observe_of_ne m s h]

theorem changesAlone_of_absent {s : FruStatus}
    (h : s.resourceId ∉ statuses.map (·.resourceId)) :
    (m.observe s).1.changesAlone statuses = m.changesAlone statuses := by
  refine List.filterMap_congr fun t ht => ?_
  have hne : t.resourceId ≠ s.resourceId := fun heq => h (heq ▸ List.mem_map_of_mem ht)
  rw [observe_snd_of_ne hne]

/-- If every unit is listed once, every status is told against the map before all of them. -/
theorem changes_distinct (hdistinct : (statuses.map (·.resourceId)).Nodup) :
    m.changes statuses = m.changesAlone statuses := by
  induction statuses generalizing m with
  | nil => rfl
  | cons s rest ih =>
    obtain ⟨habsent, hrest⟩ := List.nodup_cons.1 (List.map_cons ▸ hdistinct)
    rw [changes, ih hrest, changesAlone_of_absent habsent]
    unfold changesAlone
    cases hkind : (m.observe s).2 <;> simp [hkind]

/-- The statuses of a unit that is listed once are the same in any order. -/
theorem own_perm (hdistinct : (statuses.map (·.resourceId)).Nodup)
    (hperm : shuffled.Perm statuses) (id : String) :
    shuffled.filter (·.resourceId = id) = statuses.filter (·.resourceId = id) := by
  have hown : (shuffled.filter (·.resourceId = id)).Perm
      (statuses.filter (·.resourceId = id)) := hperm.filter _
  cases hfilter : statuses.filter (·.resourceId = id) with
  | nil => exact List.perm_nil.1 (hfilter ▸ hown)
  | cons s others =>
    -- a second status of the unit would be listed twice
    have hnone : others = [] := by
      have hnodup := hdistinct.sublist
        ((List.filter_sublist (p := (·.resourceId = id)) (l := statuses)).map (·.resourceId))
      have hmem : ∀ x ∈ s :: others, x.resourceId = id := by
        intro x hx
        rw [← hfilter] at hx
        simpa using (List.mem_filter.1 hx).2
      rw [hfilter, List.map_cons, List.nodup_cons] at hnodup
      refine List.eq_nil_iff_forall_not_mem.2 fun x hx => hnodup.1 ?_
      rw [hmem s List.mem_cons_self, ← hmem x (List.mem_cons_of_mem _ hx)]
      exact List.mem_map_of_mem hx
    rw [hfilter, hnone] at hown
    rw [hnone]
    exact List.perm_singleton.1 hown

/-- If every unit is listed once, the map after all statuses is the same in any order. -/
theorem observeAll_perm (hdistinct : (statuses.map (·.resourceId)).Nodup)
    (hperm : shuffled.Perm statuses) : m.observeAll shuffled = m.observeAll statuses := by
  refine Dict.ext_get? fun id => ?_
  rw [observeAll_about rfl shuffled, own_perm hdistinct hperm, ← observeAll_about rfl statuses]

end FaultMap

/-- **A snapshot settles, in any order.** A snapshot that lists every unit once is taken in, from
any map on. Taken in again, it tells no change and leaves the map as it is. In any other order it
comes to the same map and tells the same changes: those that its statuses tell against the map
before the snapshot, each at the place of its status. -/
theorem snapshot_settles (m : FaultMap) {statuses : List FruStatus}
    (hdistinct : (statuses.map (·.resourceId)).Nodup) :
    ((m.observeAll statuses).changes statuses = [] ∧
      (m.observeAll statuses).observeAll statuses = m.observeAll statuses) ∧
    ∀ shuffled : List FruStatus, shuffled.Perm statuses →
      m.observeAll shuffled = m.observeAll statuses ∧
      (m.changes shuffled).Perm (m.changes statuses) ∧
      m.changes shuffled = shuffled.filterMap fun s => (m.observe s).2.map (s, ·) := by
  have hsilent := m.observeAll_again hdistinct
  refine ⟨⟨hsilent, FaultMap.observeAll_of_quiet hsilent⟩, fun shuffled hperm => ?_⟩
  have hdistinct' : (shuffled.map (·.resourceId)).Nodup := (hperm.map _).nodup_iff.2 hdistinct
  have htold := FaultMap.changes_distinct (m := m) hdistinct'
  refine ⟨FaultMap.observeAll_perm hdistinct hperm, ?_, htold⟩
  rw [htold, FaultMap.changes_distinct hdistinct]
  exact hperm.filterMap _

/-- One unit comes back, one stays away and one fails: in the other order the same is told, and the
other way round. -/
theorem snapshot_settles_reversed :
    let back : FruStatus := ⟨"0", .ok, "operational", ∅⟩
    let away : FruStatus := ⟨"1", .fault, "not installed", ∅⟩
    let failed : FruStatus := ⟨"2", .degraded, "operational", ∅⟩
    let absent : FaultMap := Dict.insert ∅ "0" ⟨"0", .fault, .missing⟩
    let m : FaultMap := absent.insert "1" ⟨"1", .fault, .missing⟩
    ([back, away, failed].map (·.resourceId)).Nodup ∧
      (m.observeAll [back, away, failed]).changes [back, away, failed] = [] ∧
      m.observeAll [failed, away, back] = m.observeAll [back, away, failed] ∧
      m.changes [back, away, failed] = [(back, .insertion), (failed, .fault)] ∧
      m.changes [failed, away, back] = [(failed, .fault), (back, .insertion)] := by
  intro back away failed absent m
  have hdistinct : ([back, away, failed].map (·.resourceId)).Nodup := by decide
  obtain ⟨⟨hsilent, -⟩, horder⟩ := snapshot_settles m hdistinct
  have hreversed : [failed, away, back].Perm [back, away, failed] :=
    List.reverse_perm [back, away, failed]
  obtain ⟨hsame, -, htold⟩ := horder _ hreversed
  refine ⟨hdistinct, hsilent, hsame, by decide +kernel, ?_⟩
  rw [htold]
  decide +kernel

end HealthAgent
