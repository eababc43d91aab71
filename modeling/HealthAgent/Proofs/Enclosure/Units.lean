import HealthAgent.Enclosure.FaultMap
/-!
# Units apart

A fault map keeps the units apart: what it remembers of a unit, and the alerts that it raises for
the unit, are a matter of the unit's own statuses. `Observed` lists the four things that one status
can do, and `Remembers` says what is then known of a unit: its last health, the kind of the last
alert that was raised for it, and its record, which tells the two unless it is still the one that
was there at first.

The changes that statuses tell are those that raise an alert: `changes` lists them in order, and
`observeAll` is the map after all statuses.

Results:
* `observed`: every status does one of the four.
* `observe_again`: a status that has been observed is silent, however the other units change.
* `changes_about`, `observeAll_about`: a unit's alerts and its record are those of its own statuses.
* `Remembers.observeAll`: what is known of a unit after any statuses.
* `alert_streams_chained`: among the alerts for a unit each ending follows the alert that it ends.
-/
namespace HealthAgent
namespace FaultMap

variable {m m' : FaultMap} {s : FruStatus} {id : String}

/-- What a status does to a map, and the kind of the alert that it raises. -/
inductive Observed (m : FaultMap) (s : FruStatus) : FaultMap × Option AlertKind → Prop
  /-- A unit of which nothing is remembered is well. -/
  | unknown (well : s.health = .ok) (entry : m.get? s.resourceId = none) : Observed m s (m, none)
  /-- A unit that was not well is well again. -/
  | ended (r : FaultRecord) (well : s.health = .ok) (entry : m.get? s.resourceId = some r) :
      Observed m s (m.erase s.resourceId,
        some (if r.kind = .missing then .insertion else .faultResolved))
  /-- A unit is as it was, and not well. -/
  | same (r : FaultRecord) (ill : s.health ≠ .ok) (entry : m.get? s.resourceId = some r)
      (health : r.health = s.health) : Observed m s (m, none)
  /-- A unit is not well, in another way than was remembered. -/
  | raised (kind : AlertKind) (ill : s.health ≠ .ok) (fault : kind = .fault ∨ kind = .missing)
      (entry : ∀ r, m.get? s.resourceId = some r → r.health ≠ s.health) :
      Observed m s (m.insert s.resourceId ⟨s.resourceId, s.health, kind⟩, some kind)

def illKind (s : FruStatus) : AlertKind := if s.health = .fault then faultKind s else .fault

theorem illKind_cases (s : FruStatus) : illKind s = .fault ∨ illKind s = .missing := by
  unfold illKind faultKind
  split
  · split
    · exact .inr rfl
    · exact .inl rfl
  · exact .inl rfl

theorem transition_well (h : s.health = .ok) (previous : Option FaultRecord) :
    transition s previous =
      previous.map fun r => if r.kind = .missing then .insertion else .faultResolved := by
  unfold transition
  rw [h]
  cases previous <;> rfl

theorem transition_ill (h : s.health ≠ .ok) (previous : Option FaultRecord) :
    transition s previous =
      if previous.map (·.health) = some s.health then none else some (illKind s) := by
  unfold transition illKind
  cases hhealth : s.health with
  | ok => exact absurd hhealth h
  | degraded => cases previous <;> simp
  | fault => cases previous <;> simp

theorem observed (m : FaultMap) (s : FruStatus) : Observed m s (m.observe s) := by
  unfold observe
  by_cases hhealth : s.health = .ok
  · rw [transition_well hhealth]
    cases hentry : m.get? s.resourceId with
    | none => exact .unknown hhealth hentry
    | some r =>
      rw [Option.map_some]
      simp only [if_pos hhealth]
      exact .ended r hhealth hentry
  · rw [transition_ill hhealth]
    by_cases hsame : (m.get? s.resourceId).map (·.health) = some s.health
    · obtain ⟨r, hentry, hr⟩ := Option.map_eq_some_iff.1 hsame
      rw [if_pos hsame]
      exact .same r hhealth hentry hr
    · rw [if_neg hsame]
      simp only [if_neg hhealth]
      refine .raised (illKind s) hhealth (illKind_cases s) fun r hentry hr => hsame ?_
      rw [hentry, Option.map_some, hr]

theorem observe_snd (m : FaultMap) (s : FruStatus) :
    (m.observe s).2 = transition s (m.get? s.resourceId) := by
  unfold observe
  split
  · next h => exact h.symm
  · next kind h => split <;> exact h.symm

/-- A unit's record after a status depends on its record before it alone. -/
theorem get?_observe_congr (h : m.get? s.resourceId = m'.get? s.resourceId) :
    (m.observe s).1.get? s.resourceId = (m'.observe s).1.get? s.resourceId := by
  unfold observe
  rw [h]
  split
  · exact h
  · split <;> simp [Dict.get?_erase, Dict.get?_insert]

/-- A status that raises no alert does not change the map. -/
theorem observe_silent (h : (m.observe s).2 = none) : (m.observe s).1 = m := by
  have hobserved := m.observed s
  generalize m.observe s = after at hobserved h
  cases hobserved with
  | unknown => rfl
  | same => rfl
  | ended => cases h
  | raised => cases h

/-- A status that has been observed is silent, whatever has been observed of other units. -/
theorem observe_again (h : m'.get? s.resourceId = (m.observe s).1.get? s.resourceId) :
    (m'.observe s).2 = none := by
  rw [observe_snd, h]
  have hobserved := m.observed s
  generalize m.observe s = after at hobserved
  cases hobserved with
  | unknown hwell hentry => rw [transition_well hwell, hentry, Option.map_none]
  | ended r hwell hentry => simp [transition_well hwell, Dict.get?_erase]
  | same r hill hentry hhealth => simp [transition_ill hill, hentry, hhealth]
  | raised kind hill hkind hentry => simp [transition_ill hill, Dict.get?_insert]

/-! ## Many statuses -/

/-- The map after statuses have been observed one after the other. -/
def observeAll (m : FaultMap) (statuses : List FruStatus) : FaultMap :=
  statuses.foldl (fun m s => (m.observe s).1) m

/-- The changes that statuses tell, each with the kind of the alert it raises. -/
def changes (m : FaultMap) : List FruStatus → List (FruStatus × AlertKind)
  | [] => []
  | s :: rest => (m.observe s).2.toList.map (s, ·) ++ changes (m.observe s).1 rest

theorem observeAll_append (m : FaultMap) (xs ys : List FruStatus) :
    m.observeAll (xs ++ ys) = (m.observeAll xs).observeAll ys := List.foldl_append

theorem changes_append (m : FaultMap) (xs ys : List FruStatus) :
    m.changes (xs ++ ys) = m.changes xs ++ (m.observeAll xs).changes ys := by
  induction xs generalizing m with
  | nil => rfl
  | cons x xs ih =>
    rw [List.cons_append, changes, changes, ih, List.append_assoc]
    rfl

theorem observeAll_about (h : m.get? id = m'.get? id) (statuses : List FruStatus) :
    (m.observeAll statuses).get? id =
      (m'.observeAll (statuses.filter (·.resourceId = id))).get? id := by
  induction statuses generalizing m m' with
  | nil => exact h
  | cons s rest ih =>
    by_cases hid : s.resourceId = id
    · subst hid
      rw [List.filter_cons_of_pos (by simp)]
      exact ih (get?_observe_congr h)
    · rw [List.filter_cons_of_neg (by simpa using hid)]
      exact ih ((get?_observe_of_ne m s (Ne.symm hid)).trans h)

theorem changes_about (h : m.get? id = m'.get? id) (statuses : List FruStatus) :
    (m.changes statuses).filter (·.1.resourceId = id) =
      m'.changes (statuses.filter (·.resourceId = id)) := by
  induction statuses generalizing m m' with
  | nil => rfl
  | cons s rest ih =>
    rw [changes, List.filter_append]
    by_cases hid : s.resourceId = id
    · subst hid
      rw [List.filter_cons_of_pos (by simp), changes, ih (get?_observe_congr h), observe_snd,
        observe_snd, h, List.filter_eq_self.2]
      simp
    · rw [List.filter_cons_of_neg (by simpa using hid),
        ih ((get?_observe_of_ne m s (Ne.symm hid)).trans h), List.filter_eq_nil_iff.2,
        List.nil_append]
      simp [hid]

theorem observeAll_of_absent {statuses : List FruStatus} (h : ∀ s ∈ statuses, s.resourceId ≠ id) :
    (m.observeAll statuses).get? id = m.get? id := by
  rw [observeAll_about rfl, List.filter_eq_nil_iff.2 (by simpa using h)]
  rfl

/-- Statuses without a change leave the map as it is. -/
theorem observeAll_of_quiet {statuses : List FruStatus} (h : m.changes statuses = []) :
    m.observeAll statuses = m := by
  induction statuses with
  | nil => rfl
  | cons s rest ih =>
    obtain ⟨hfirst, hrest⟩ := List.append_eq_nil_iff.1 h
    have hsilent : (m.observe s).2 = none := by simpa using hfirst
    have hsame := observe_silent hsilent
    rw [hsame] at hrest
    rw [observeAll, List.foldl_cons, hsame]
    exact ih hrest

theorem changes_of_silent {statuses : List FruStatus}
    (h : ∀ s ∈ statuses, (m.observe s).2 = none) : m.changes statuses = [] := by
  induction statuses with
  | nil => rfl
  | cons s rest ih =>
    obtain ⟨hfirst, hrest⟩ := List.forall_mem_cons.1 h
    rw [changes, hfirst, observe_silent hfirst, ih hrest]
    rfl

/-- A snapshot that has been observed is silent, if it tells of every unit once. -/
theorem observeAll_again {statuses : List FruStatus}
    (hdistinct : (statuses.map (·.resourceId)).Nodup) :
    (m.observeAll statuses).changes statuses = [] := by
  refine changes_of_silent fun s hs => ?_
  obtain ⟨before, after, rfl⟩ := List.append_of_mem hs
  -- the statuses after this one are about other units
  have hother : ∀ x ∈ after, x.resourceId ≠ s.resourceId := by
    rw [List.map_append, List.map_cons, List.nodup_append] at hdistinct
    intro x hx heq
    exact (List.nodup_cons.1 hdistinct.2.1).1 (heq ▸ List.mem_map_of_mem hx)
  apply observe_again (m := m.observeAll before)
  rw [observeAll_append]
  exact observeAll_of_absent hother

/-! ## What is known of a unit -/

/-- `Remembers initial id health raised entry`: the record of a unit is `entry` after statuses of
which the last one told `health` and the last alert was of the kind `raised`; at first the record
was `initial`. -/
inductive Remembers (initial : Option FaultRecord) (id : String) :
    Option Health → Option AlertKind → Option FaultRecord → Prop
  | unseen : Remembers initial id none none initial
  | well (raised : Option AlertKind) : Remembers initial id (some .ok) raised none
  /-- No alert has been raised: the unit is as the record told from the beginning. -/
  | silent (r : FaultRecord) (same : initial = some r) (ill : r.health ≠ .ok) :
      Remembers initial id (some r.health) none (some r)
  | raised (health : Health) (kind : AlertKind) (ill : health ≠ .ok)
      (fault : kind = .fault ∨ kind = .missing) :
      Remembers initial id (some health) (some kind) (some ⟨id, health, kind⟩)

variable {initial : Option FaultRecord} {health : Option Health} {raised : Option AlertKind}

theorem Remembers.observe (hid : s.resourceId = id)
    (h : Remembers initial id health raised (m.get? id)) :
    Remembers initial id (some s.health) ((m.observe s).2.or raised) ((m.observe s).1.get? id) := by
  subst hid
  have hobserved := m.observed s
  generalize m.observe s = after at hobserved ⊢
  cases hobserved with
  | unknown hwell hentry =>
    rw [hwell]
    simp only [hentry]
    exact .well _
  | ended r hwell hentry =>
    rw [hwell]
    simp only [Dict.get?_erase, if_true]
    exact .well _
  | same r hill hentry hhealth =>
    -- the record is left as it is: it tells the health that it told before
    simp only [hentry, Option.none_or, ← hhealth] at h hill ⊢
    cases h with
    | unseen => exact .silent r rfl hill
    | silent r hsame hill' => exact .silent r hsame hill'
    | raised health kind hill' hkind => exact .raised health kind hill' hkind
  | raised kind hill hkind hentry =>
    simp only [Dict.get?_insert, if_true, Option.some_or]
    exact .raised s.health kind hill hkind

def kindsFor (id : String) (changes : List (FruStatus × AlertKind)) : List AlertKind :=
  (changes.filter (·.1.resourceId = id)).map (·.2)

theorem kindsFor_cons (m : FaultMap) (s : FruStatus) (rest : List FruStatus) (id : String) :
    kindsFor id (m.changes (s :: rest)) =
      (if s.resourceId = id then (m.observe s).2.toList else []) ++
        kindsFor id ((m.observe s).1.changes rest) := by
  rw [kindsFor, changes, List.filter_append, List.map_append]
  congr 1
  cases (m.observe s).2 with
  | none => simp
  | some kind => by_cases hid : s.resourceId = id <;> simp [hid]

theorem Remembers.observeAll (statuses : List FruStatus)
    (h : Remembers initial id health raised (m.get? id)) :
    Remembers initial id
      (((statuses.filter (·.resourceId = id)).getLast?.map (·.health)).or health)
      ((kindsFor id (m.changes statuses)).getLast?.or raised)
      ((m.observeAll statuses).get? id) := by
  induction statuses generalizing m health raised with
  | nil => exact h
  | cons s rest ih =>
    rw [kindsFor_cons]
    by_cases hid : s.resourceId = id
    · have hrest := ih (h.observe hid)
      have hhealth : ∀ own : List FruStatus, ((s :: own).getLast?.map (·.health)).or health =
          (own.getLast?.map (·.health)).or (some s.health) := by
        intro own
        rw [List.getLast?_cons]
        cases own.getLast? <;> rfl
      have hraised : (m.observe s).2.toList.getLast? = (m.observe s).2 := by
        cases (m.observe s).2 <;> rfl
      rw [if_pos hid, List.filter_cons_of_pos (by simpa using hid), hhealth, List.getLast?_append,
        hraised, Option.or_assoc]
      exact hrest
    · rw [← get?_observe_of_ne m s (Ne.symm hid)] at h
      rw [if_neg hid, List.nil_append, List.filter_cons_of_neg (by simpa using hid)]
      exact ih h

end FaultMap

/-! ## The order of a unit's alerts -/

/-- An alert of this kind may follow an alert of the kind `before` for the same unit. An ending
follows the alert that it ends, and says which one it was. -/
inductive AlertKind.Follows : (before : Option AlertKind) → AlertKind → Prop
  | fault (before : Option AlertKind) : Follows before .fault
  | missing (before : Option AlertKind) : Follows before .missing
  | faultResolved : Follows (some .fault) .faultResolved
  | insertion : Follows (some .missing) .insertion

/-- Alerts of these kinds may follow each other, the first one after `before`. -/
def AlertKind.Chained : (before : Option AlertKind) → List AlertKind → Prop
  | _, [] => True
  | before, kind :: rest => Follows before kind ∧ Chained (some kind) rest

namespace FaultMap

variable {m : FaultMap} {s : FruStatus} {id : String} {health : Option Health}
  {raised : Option AlertKind}

theorem Remembers.follows (hid : s.resourceId = id)
    (h : Remembers none id health raised (m.get? id)) {kind : AlertKind}
    (hkind : (m.observe s).2 = some kind) : AlertKind.Follows raised kind := by
  subst hid
  have hobserved := m.observed s
  generalize m.observe s = after at hobserved hkind
  cases hobserved with
  | unknown => cases hkind
  | same => cases hkind
  | raised kind' hill hfault =>
    cases hkind
    rcases hfault with rfl | rfl
    · exact .fault _
    · exact .missing _
  | ended r hwell hentry =>
    -- the record that is ended tells the last alert, as there was none at first
    rw [hentry] at h
    cases h with
    | silent r hsame => cases hsame
    | raised health kind' hill hfault =>
      cases hkind
      rcases hfault with rfl | rfl
      · exact .faultResolved
      · exact .insertion

theorem Remembers.chained (statuses : List FruStatus)
    (h : Remembers none id health raised (m.get? id)) :
    AlertKind.Chained raised (kindsFor id (m.changes statuses)) := by
  induction statuses generalizing m health raised with
  | nil => trivial
  | cons s rest ih =>
    rw [kindsFor_cons]
    by_cases hid : s.resourceId = id
    · have hrest := ih (h.observe hid)
      rw [if_pos hid]
      cases hkind : (m.observe s).2 with
      | none =>
        rw [hkind] at hrest
        exact hrest
      | some kind =>
        rw [hkind] at hrest
        exact ⟨h.follows hid hkind, hrest⟩
    · rw [← get?_observe_of_ne m s (Ne.symm hid)] at h
      rw [if_neg hid]
      exact ih h

end FaultMap

/-- **Every unit has an alert stream of its own.** Whatever statuses are observed from the empty map
on, in the alerts for a unit an ending follows immediately on the fault or the absence that it ends,
and nothing but faults, absences and their endings is raised. The alerts for the unit and its record
are those of its own statuses. -/
theorem alert_streams_chained (statuses : List FruStatus) (id : String) :
    let own := statuses.filter (·.resourceId = id)
    AlertKind.Chained none (FaultMap.kindsFor id ((∅ : FaultMap).changes statuses)) ∧
      ((∅ : FaultMap).changes statuses).filter (·.1.resourceId = id) = (∅ : FaultMap).changes own ∧
      ((∅ : FaultMap).observeAll statuses).get? id = ((∅ : FaultMap).observeAll own).get? id := by
  have hempty : FaultMap.Remembers none id none none ((∅ : FaultMap).get? id) := .unseen
  exact ⟨hempty.chained statuses, FaultMap.changes_about rfl statuses,
    FaultMap.observeAll_about rfl statuses⟩

end HealthAgent
