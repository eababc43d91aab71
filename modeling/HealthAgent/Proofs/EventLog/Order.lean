import HealthAgent.EventLog.Plan
/-!
# Plans for logs in order

A log in order is numbered upwards from a positive number. Of such a log the plan for a cursor leaves
out the entries up to the cursor's number, if the log holds it, and nothing otherwise.

Results:
* `Increasing.mem_of_le`: what is numbered up to an entry of a beginning of the log is in it.
* `TailPlan.mem_todo_or_le`: a plan leaves out nothing that is numbered above the cursor.
* `TailPlan.todo_of_append`: behind the cursor's entry, all is to be handled.
* `TailPlan.nextCursor_getD`: the next cursor is the number of the last entry to handle.
-/
namespace HealthAgent

/-- The entries of a log are numbered upwards from a positive number. -/
def Increasing (es : List LogEntry) : Prop :=
  es.Pairwise (·.index < ·.index) ∧ ∀ e ∈ es, 0 < e.index

/-- The entries of a log have different, positive numbers. -/
def Distinct (es : List LogEntry) : Prop :=
  es.Pairwise (·.index ≠ ·.index) ∧ ∀ e ∈ es, 0 < e.index

instance : DecidablePred Increasing := fun _ => inferInstanceAs (Decidable (_ ∧ _))

instance : DecidablePred Distinct := fun _ => inferInstanceAs (Decidable (_ ∧ _))

theorem Increasing.distinct {es : List LogEntry} (h : Increasing es) : Distinct es := by
  refine ⟨h.1.imp ?_, h.2⟩
  intro a b hlt heq
  rw [heq] at hlt
  exact UInt64.lt_irrefl _ hlt

theorem Increasing.of_prefix {es fs : List LogEntry} (h : Increasing fs) (hpre : es <+: fs) :
    Increasing es := by
  obtain ⟨hp, hpos⟩ := h
  exact ⟨hp.sublist hpre.sublist, fun e he => hpos e (hpre.subset he)⟩

theorem Increasing.mem_of_le {es fs : List LogEntry} (h : Increasing fs) (hpre : es <+: fs)
    {e x : LogEntry} (he : e ∈ es) (hx : x ∈ fs) (hle : x.index ≤ e.index) : x ∈ es := by
  obtain ⟨rest, rfl⟩ := hpre
  have hcross := (List.pairwise_append.1 h.1).2.2
  rcases List.mem_append.1 hx with hmem | hmem
  · exact hmem
  · exact absurd (hcross e he x hmem) (UInt64.not_lt.2 hle)

/-- The number of the last entry, or a default if there is none. -/
def lastIndex (default : UInt64) (es : List LogEntry) : UInt64 :=
  (es.getLast?.map (·.index)).getD default

theorem lastIndex_append (default : UInt64) (es fs : List LogEntry) :
    lastIndex default (es ++ fs) = lastIndex (lastIndex default es) fs := by
  unfold lastIndex
  rw [List.getLast?_append]
  cases fs.getLast? <;> simp

theorem lastIndex_of_ne_nil {es : List LogEntry} (h : es ≠ []) (d d' : UInt64) :
    lastIndex d es = lastIndex d' es := by
  unfold lastIndex
  rw [List.getLast?_eq_some_getLast h]
  rfl

namespace TailPlan

theorem after?_eq_none (cursor : UInt64) (es : List LogEntry) :
    after? cursor es = none ↔ ∀ e ∈ es, e.index ≠ cursor := by
  induction es with
  | nil => simp [after?]
  | cons e rest ih =>
    unfold after?
    split
    · rename_i heq
      simp [heq]
    · rename_i hne
      rw [ih]
      simp [hne]

theorem after?_eq_some {cursor : UInt64} {es rest : List LogEntry} (h : after? cursor es = some rest) :
    ∃ seen e, es = seen ++ e :: rest ∧ e.index = cursor ∧ ∀ x ∈ seen, x.index ≠ cursor := by
  induction es with
  | nil => cases h
  | cons e es ih =>
    unfold after? at h
    split at h
    · rename_i heq
      cases h
      exact ⟨[], e, rfl, heq, by simp⟩
    · rename_i hne
      obtain ⟨seen, e', hes, heq, hseen⟩ := ih h
      exact ⟨e :: seen, e', by rw [hes]; rfl, heq, List.forall_mem_cons.2 ⟨hne, hseen⟩⟩

theorem after?_append {seen rest : List LogEntry} {e : LogEntry}
    (h : ∀ x ∈ seen, x.index ≠ e.index) : after? e.index (seen ++ e :: rest) = some rest := by
  induction seen with
  | nil => simp [after?]
  | cons x seen ih =>
    have hne : x.index ≠ e.index := h x List.mem_cons_self
    rw [List.cons_append, after?, if_neg hne]
    exact ih fun y hy => h y (List.mem_cons_of_mem _ hy)

/-- The entries that the plan for a listing has to handle. -/
def todo (es : List LogEntry) (cursor : UInt64) : List LogEntry :=
  (make es cursor).unseen.map (·.entry)

/-- A plan leaves out nothing that is numbered above the cursor. -/
theorem mem_todo_or_le {es : List LogEntry} (hes : Increasing es) (cursor : UInt64) {x : LogEntry}
    (hx : x ∈ es) : x ∈ todo es cursor ∨ x.index ≤ cursor := by
  rw [todo, unseen_entries]
  cases hafter : after? cursor es with
  | none => exact .inl hx
  | some rest =>
    obtain ⟨seen, e, rfl, rfl, -⟩ := after?_eq_some hafter
    have hcross := (List.pairwise_append.1 hes.1).2.2
    rcases List.mem_append.1 hx with hseen | htail
    · exact .inr (UInt64.le_of_lt (hcross x hseen e List.mem_cons_self))
    · rcases List.mem_cons.1 htail with rfl | hrest
      · exact .inr (UInt64.le_refl _)
      · exact .inl hrest

/-- What a plan has to handle is a part at the end of the log. -/
theorem todo_suffix (es : List LogEntry) (cursor : UInt64) : todo es cursor <:+ es := by
  rw [todo, unseen_entries]
  cases hafter : after? cursor es with
  | none => exact List.suffix_refl es
  | some rest =>
    obtain ⟨seen, e, rfl, -⟩ := after?_eq_some hafter
    exact ⟨seen ++ [e], by simp⟩

/-- If the cursor's entry is missing, all is to be handled. -/
theorem todo_of_missing {es : List LogEntry} {cursor : UInt64} (h : ∀ e ∈ es, e.index ≠ cursor) :
    todo es cursor = es := by
  rw [todo, unseen_entries, (after?_eq_none cursor es).2 h]
  rfl

theorem todo_zero {es : List LogEntry} (h : Distinct es) : todo es 0 = es := by
  refine todo_of_missing ?_
  intro e he heq
  have hlt := h.2 e he
  rw [heq] at hlt
  exact UInt64.lt_irrefl _ hlt

/-- The cursor's entry is not to be handled. -/
theorem not_mem_todo {es : List LogEntry} (h : Distinct es) {e : LogEntry} (he : e ∈ es) :
    e ∉ todo es e.index := by
  rw [todo, unseen_entries]
  cases hafter : after? e.index es with
  | none => exact absurd rfl ((after?_eq_none _ _).1 hafter e he)
  | some rest =>
    obtain ⟨seen, e', rfl, heq, -⟩ := after?_eq_some hafter
    have htail := (List.pairwise_append.1 h.1).2.1
    intro hmem
    exact List.rel_of_pairwise_cons htail hmem heq

/-- All is to be handled exactly if the cursor's entry is missing. -/
theorem all_todo_iff {es : List LogEntry} (h : Distinct es) (cursor : UInt64) :
    (∀ x ∈ es, x ∈ todo es cursor) ↔ ∀ e ∈ es, e.index ≠ cursor := by
  constructor
  · intro hall e he heq
    have hmem := hall e he
    rw [← heq] at hmem
    exact not_mem_todo h he hmem
  · intro hmissing x hx
    rw [todo_of_missing hmissing]
    exact hx

/-- Behind the cursor's entry, all is to be handled. -/
theorem todo_of_append {seen rest : List LogEntry} (h : Distinct (seen ++ rest)) :
    todo (seen ++ rest) (lastIndex 0 seen) = rest := by
  rcases List.eq_nil_or_concat seen with rfl | ⟨init, e, rfl⟩
  · exact todo_zero h
  · have hinit : ∀ x ∈ init, x.index ≠ e.index := by
      have hne := h.1
      rw [List.concat_eq_append, List.append_assoc] at hne
      intro x hx
      exact (List.pairwise_append.1 hne).2.2 x hx e (by simp)
    have hsome : after? e.index (init ++ e :: rest) = some rest := after?_append hinit
    rw [todo, unseen_entries]
    simp [lastIndex, hsome]

/-- The next cursor is the number of the last entry to handle. -/
theorem nextCursor_eq (es : List LogEntry) (cursor : UInt64) :
    (make es cursor).nextCursor = (todo es cursor).getLast?.map (·.index) := by
  simp [nextCursor, todo, List.getLast?_map, Function.comp_def]

theorem nextCursor_getD (es : List LogEntry) (cursor : UInt64) :
    (make es cursor).nextCursor.getD cursor = lastIndex cursor (todo es cursor) := by
  rw [nextCursor_eq]
  rfl

theorem nextCursor_eq_some {es : List LogEntry} {cursor index : UInt64}
    (h : (make es cursor).nextCursor = some index) : ∃ e ∈ es, e.index = index := by
  rw [nextCursor_eq] at h
  obtain ⟨e, hlast, rfl⟩ := Option.map_eq_some_iff.1 h
  exact ⟨e, (todo_suffix es cursor).subset (List.mem_of_getLast? hlast), rfl⟩

end TailPlan
end HealthAgent
