import HealthAgent.Proofs.EventLog.Order
/-!
# Tailing a growing log

A log that is planned, and then planned again from the next cursor once it has grown, is handled as if
it were planned once when it has grown. So neither the moments at which a log is read nor their number
decide what is handled of it.

Results:
* `TailPlan.todo_append`: what is added to a log is to be handled after what already was.
* `TailPlan.todo_nextCursor`: behind the next cursor there is just what was added.
* `tailing_compositional`: the plan for a log that has grown is the plan for the log before, followed by
  the plan from the next cursor on.
-/
namespace HealthAgent
namespace TailPlan

/-- The entries behind the first one with the cursor's number, or all if there is none. -/
theorem make_cases (es : List LogEntry) (cursor : UInt64) :
    ((make es cursor).cursorFound = true ∧
      ∃ seen e, es = seen ++ e :: todo es cursor ∧ e.index = cursor ∧ ∀ x ∈ seen, x.index ≠ cursor) ∨
    ((make es cursor).cursorFound = false ∧ (∀ x ∈ es, x.index ≠ cursor) ∧ todo es cursor = es) := by
  have htodo : todo es cursor = (after? cursor es).getD es := unseen_entries es cursor
  cases hafter : after? cursor es with
  | some rest =>
    obtain ⟨seen, e, hes, heq, hseen⟩ := after?_eq_some hafter
    rw [hafter] at htodo
    refine .inl ⟨by simp [make, hafter], seen, e, ?_, heq, hseen⟩
    rw [htodo]
    exact hes
  | none =>
    rw [hafter] at htodo
    exact .inr ⟨by simp [make, hafter], (after?_eq_none cursor es).1 hafter, htodo⟩

/-- Behind the first entry with the cursor's number, all is to be handled. -/
theorem todo_behind {seen rest : List LogEntry} {e : LogEntry} (h : ∀ x ∈ seen, x.index ≠ e.index) :
    todo (seen ++ e :: rest) e.index = rest := by
  rw [todo, unseen_entries, after?_append h]
  rfl

variable {as bs : List LogEntry} {cursor : UInt64}

/-- What is added to a log is to be handled after what already was, if it does not bring the cursor's
number back. -/
theorem todo_append (hbs : ∀ x ∈ bs, x.index ≠ cursor) :
    todo (as ++ bs) cursor = todo as cursor ++ bs := by
  rcases make_cases as cursor with ⟨-, seen, e, has, rfl, hseen⟩ | ⟨-, hmissing, htodo⟩
  · have hgrown : as ++ bs = seen ++ e :: (todo as e.index ++ bs) := by
      rw [← List.cons_append, ← List.append_assoc, ← has]
    rw [hgrown]
    exact todo_behind hseen
  · rw [htodo]
    refine todo_of_missing ?_
    intro x hx
    rcases List.mem_append.1 hx with hold | hnew
    · exact hmissing x hold
    · exact hbs x hnew

theorem todo_nextCursor (hne : (as ++ bs).Pairwise (·.index ≠ ·.index))
    (hbs : ∀ x ∈ bs, x.index ≠ cursor) :
    todo (as ++ bs) ((make as cursor).nextCursor.getD cursor) =
      if as = [] then todo bs cursor else bs := by
  rw [nextCursor_getD]
  rcases List.eq_nil_or_concat (todo as cursor) with hnil | ⟨init, last, hlast⟩
  · -- Nothing is to be handled of a log only if it is empty or the cursor's entry is its last one.
    rw [hnil]
    change todo (as ++ bs) cursor = _
    split
    · rename_i has
      rw [has]
      rfl
    · rw [todo_append hbs, hnil]
      rfl
  · rw [hlast, List.concat_eq_append]
    have hcursor : lastIndex cursor (init ++ [last]) = last.index := by simp [lastIndex]
    obtain ⟨seen, has⟩ := todo_suffix as cursor
    rw [hlast, List.concat_eq_append, ← List.append_assoc] at has
    have hnonempty : as ≠ [] := by
      intro hnil
      rw [hnil] at has
      simp at has
    rw [hcursor, if_neg hnonempty]
    subst has
    rw [List.append_assoc] at hne ⊢
    refine todo_behind ?_
    intro x hx
    exact (List.pairwise_append.1 hne).2.2 x hx last (by simp)

end TailPlan
open TailPlan

/-- A plan leaves out the entries up to the first one with the cursor's number, and tells whether there
is one. If a log of different numbers has grown by entries that do not bring the cursor's number back,
its plan is the plan before it has grown, followed by the plan from the next cursor on; the next cursor
leaves nothing to do of a log that has not grown. -/
theorem tailing_compositional (as bs : List LogEntry) (cursor : UInt64) :
    (((make as cursor).cursorFound = true ∧
        ∃ seen e, as = seen ++ e :: todo as cursor ∧ e.index = cursor ∧
          ∀ x ∈ seen, x.index ≠ cursor) ∨
      ((make as cursor).cursorFound = false ∧ (∀ x ∈ as, x.index ≠ cursor) ∧ todo as cursor = as)) ∧
    ((as ++ bs).Pairwise (·.index ≠ ·.index) → (∀ x ∈ bs, x.index ≠ cursor) →
      todo (as ++ bs) cursor =
          todo as cursor ++ todo (as ++ bs) ((make as cursor).nextCursor.getD cursor) ∧
        (as ≠ [] → todo as ((make as cursor).nextCursor.getD cursor) = [])) := by
  refine ⟨make_cases as cursor, ?_⟩
  intro hne hbs
  constructor
  · rw [todo_append hbs, todo_nextCursor hne hbs]
    congr 1
    split
    · exact (todo_of_missing hbs).symm
    · rfl
  · intro has
    have hold : (as ++ ([] : List LogEntry)).Pairwise (·.index ≠ ·.index) := by
      rw [List.append_nil]
      exact (List.pairwise_append.1 hne).1
    have hnothing : todo (as ++ []) ((make as cursor).nextCursor.getD cursor) = [] := by
      rw [todo_nextCursor hold (by simp), if_neg has]
    rwa [List.append_nil] at hnothing

def Trial.numbered (index : UInt64) : LogEntry :=
  ⟨index, "", "", "Fan #0x30", "Fan", some "30", "", .asserted⟩

theorem tailing_compositional_grown :
    let old := [Trial.numbered 1, Trial.numbered 2, Trial.numbered 3]
    let new := [Trial.numbered 7, Trial.numbered 4]
    todo (old ++ new) 2 = todo old 2 ++ todo (old ++ new) 3 ∧ todo old 3 = [] := by
  have hgrown := (tailing_compositional
    [Trial.numbered 1, Trial.numbered 2, Trial.numbered 3] [Trial.numbered 7, Trial.numbered 4]
    2).2 (by decide) (by decide)
  have hnext : (make [Trial.numbered 1, Trial.numbered 2, Trial.numbered 3] 2).nextCursor.getD 2 = 3 := by
    decide
  rw [hnext] at hgrown
  exact ⟨hgrown.1, hgrown.2 (by simp)⟩

end HealthAgent
