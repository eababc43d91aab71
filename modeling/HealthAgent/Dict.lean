/-!
# Dictionaries with text keys in order

A dictionary holds one value per key and lists its keys in ascending order, by code points (which
is also the order of their UTF-8 bytes). The order and the uniqueness of keys are part of the type,
so two dictionaries with the same lookups are equal.

Results:
* `get?_insert`, `get?_erase`: what a change does to the lookups.
* `ext_get?`: dictionaries with equal lookups are equal.
* `get?_union`, `get?_modify`, `get?_foldl_modify`: lookups after a union and after changes in place.
* `ofList_entries`: a dictionary is the dictionary of its entries.
-/
namespace HealthAgent

/-- Values under text keys, in ascending order of the keys. -/
structure Dict (α : Type) where
  entries : List (String × α)
  sorted : entries.Pairwise (·.1 < ·.1)
  deriving DecidableEq

namespace Dict

variable {α β : Type}

instance [Repr α] : Repr (Dict α) := ⟨fun d n => reprPrec d.entries n⟩

def empty : Dict α := ⟨[], .nil⟩

instance : EmptyCollection (Dict α) := ⟨empty⟩
instance : Inhabited (Dict α) := ⟨empty⟩

/-- The value under a key in a list of entries. -/
def find (k : String) : List (String × α) → Option α
  | [] => none
  | (k', v) :: rest => if k = k' then some v else find k rest

/-- The entries with `v` under `k`, in place of an older value. -/
def put (k : String) (v : α) : List (String × α) → List (String × α)
  | [] => [(k, v)]
  | (k', v') :: rest =>
    if k < k' then (k, v) :: (k', v') :: rest
    else if k = k' then (k, v) :: rest
    else (k', v') :: put k v rest

/-- The entries other than the one under `k`. -/
def drop (k : String) (es : List (String × α)) : List (String × α) :=
  es.filter (·.1 ≠ k)

theorem mem_put {k : String} {v : α} {es : List (String × α)} {e : String × α}
    (h : e ∈ put k v es) : e = (k, v) ∨ e ∈ es := by
  induction es with
  | nil => simpa [put] using h
  | cons x rest ih =>
    obtain ⟨k', v'⟩ := x
    rw [put] at h
    split at h
    · simpa using h
    · split at h
      · rcases List.mem_cons.1 h with h | h
        · exact .inl h
        · exact .inr (List.mem_cons_of_mem _ h)
      · rcases List.mem_cons.1 h with h | h
        · exact .inr (h ▸ List.mem_cons_self)
        · exact (ih h).imp_right (List.mem_cons_of_mem _)

theorem lt_of_not_lt_of_ne {a b : String} (h : ¬a < b) (hne : a ≠ b) : b < a := by
  rcases String.le_total a b with hab | hba
  · exact absurd (String.le_antisymm hab (String.not_lt.1 h)) hne
  · exact String.not_le.1 fun hab => hne (String.le_antisymm hab hba)

theorem sorted_put (k : String) (v : α) {es : List (String × α)}
    (h : es.Pairwise (·.1 < ·.1)) : (put k v es).Pairwise (·.1 < ·.1) := by
  induction es with
  | nil => simp [put]
  | cons x rest ih =>
    obtain ⟨k', v'⟩ := x
    have hx := List.pairwise_cons.1 h
    rw [put]
    split
    · next hlt =>
      refine List.pairwise_cons.2 ⟨fun e he => ?_, h⟩
      rcases List.mem_cons.1 he with rfl | he
      · exact hlt
      · exact String.lt_trans hlt (hx.1 e he)
    · next hnlt =>
      split
      · next heq => exact List.pairwise_cons.2 ⟨fun e he => heq ▸ hx.1 e he, hx.2⟩
      · next hne =>
        refine List.pairwise_cons.2 ⟨fun e he => ?_, ih hx.2⟩
        rcases mem_put he with rfl | he
        · exact lt_of_not_lt_of_ne hnlt hne
        · exact hx.1 e he

def get? (d : Dict α) (k : String) : Option α := find k d.entries

def contains (d : Dict α) (k : String) : Bool := (d.get? k).isSome

/-- This dictionary with `v` under `k`, in place of an older value. -/
def insert (d : Dict α) (k : String) (v : α) : Dict α :=
  ⟨put k v d.entries, sorted_put k v d.sorted⟩

def erase (d : Dict α) (k : String) : Dict α :=
  ⟨drop k d.entries, d.sorted.filter _⟩

/-- The dictionary of a list of entries; of two with one key the later wins. -/
def ofList (es : List (String × α)) : Dict α :=
  es.foldl (fun d e => d.insert e.1 e.2) ∅

/-- This dictionary with all entries of `other`, which win over its own. -/
def union (d other : Dict α) : Dict α :=
  other.entries.foldl (fun d e => d.insert e.1 e.2) d

/-- The entries, by ascending key. -/
def toList (d : Dict α) : List (String × α) := d.entries

def size (d : Dict α) : Nat := d.entries.length

def isEmpty (d : Dict α) : Bool := d.entries.isEmpty

/-- The value under `k` replaced by its image, if there is one. -/
def modify (d : Dict α) (k : String) (f : α → α) : Dict α :=
  match d.get? k with
  | some v => d.insert k (f v)
  | none => d

theorem find_put (k j : String) (v : α) (es : List (String × α)) :
    find j (put k v es) = if j = k then some v else find j es := by
  induction es with
  | nil => simp [put, find]
  | cons x rest ih =>
    obtain ⟨k', v'⟩ := x
    rw [put]
    split
    · simp [find]
    · split
      · next heq => subst heq; by_cases hj : j = k <;> simp [find, hj]
      · next hne =>
        by_cases hj : j = k'
        · subst hj; simp [find, Ne.symm hne]
        · simp [find, hj, ih]

theorem find_drop (k j : String) (es : List (String × α)) :
    find j (drop k es) = if j = k then none else find j es := by
  induction es with
  | nil => simp [drop, find]
  | cons x rest ih =>
    obtain ⟨k', v'⟩ := x
    rw [drop] at ih ⊢
    by_cases hk : k' = k
    · subst hk
      by_cases hj : j = k' <;> simp_all [find]
    · by_cases hj : j = k'
      · subst hj; simp [find, hk]
      · simpa [find, hk, hj] using ih

@[simp] theorem get?_empty (k : String) : (∅ : Dict α).get? k = none := rfl

theorem get?_insert (d : Dict α) (k j : String) (v : α) :
    (d.insert k v).get? j = if j = k then some v else d.get? j :=
  find_put k j v d.entries

theorem get?_erase (d : Dict α) (k j : String) :
    (d.erase k).get? j = if j = k then none else d.get? j :=
  find_drop k j d.entries

theorem find_eq_some_of_mem {es : List (String × α)} (h : es.Pairwise (·.1 < ·.1))
    {e : String × α} (he : e ∈ es) : find e.1 es = some e.2 := by
  induction es with
  | nil => simp at he
  | cons x rest ih =>
    have hx := List.pairwise_cons.1 h
    rcases List.mem_cons.1 he with rfl | he
    · simp [find]
    · have hne : e.1 ≠ x.1 := fun heq => String.lt_irrefl x.1 (heq ▸ hx.1 e he)
      have ihe := ih hx.2 he
      obtain ⟨k', v'⟩ := x
      simpa [find, hne] using ihe

theorem mem_of_find_eq_some {es : List (String × α)} {k : String} {v : α}
    (h : find k es = some v) : (k, v) ∈ es := by
  induction es with
  | nil => simp [find] at h
  | cons x rest ih =>
    obtain ⟨k', v'⟩ := x
    rw [find] at h
    split at h
    · next hk => simp_all
    · exact List.mem_cons_of_mem _ (ih h)

theorem mem_entries_iff (d : Dict α) (k : String) (v : α) :
    (k, v) ∈ d.entries ↔ d.get? k = some v :=
  ⟨fun h => find_eq_some_of_mem d.sorted h, mem_of_find_eq_some⟩

theorem entries_ext {xs ys : List (String × α)} (hx : xs.Pairwise (·.1 < ·.1))
    (hy : ys.Pairwise (·.1 < ·.1)) (h : ∀ e, e ∈ xs ↔ e ∈ ys) : xs = ys := by
  induction xs generalizing ys with
  | nil =>
    cases ys with
    | nil => rfl
    | cons y ys => simpa using h y
  | cons x xs ih =>
    cases ys with
    | nil => simpa using h x
    | cons y ys =>
      have hx' := List.pairwise_cons.1 hx
      have hy' := List.pairwise_cons.1 hy
      have hxy : x = y := by
        rcases List.mem_cons.1 ((h x).1 List.mem_cons_self) with hxy | hmem
        · exact hxy
        · rcases List.mem_cons.1 ((h y).2 List.mem_cons_self) with hyx | hmem'
          · exact hyx.symm
          · exact absurd (hy'.1 x hmem) (String.lt_asymm (hx'.1 y hmem'))
      subst hxy
      refine congrArg (x :: ·) (ih hx'.2 hy'.2 fun e => ⟨fun he => ?_, fun he => ?_⟩)
      · rcases List.mem_cons.1 ((h e).1 (List.mem_cons_of_mem _ he)) with rfl | he'
        · exact absurd (hx'.1 e he) (String.lt_irrefl _)
        · exact he'
      · rcases List.mem_cons.1 ((h e).2 (List.mem_cons_of_mem _ he)) with rfl | he'
        · exact absurd (hy'.1 e he) (String.lt_irrefl _)
        · exact he'

theorem ext_get? {d₁ d₂ : Dict α} (h : ∀ k, d₁.get? k = d₂.get? k) : d₁ = d₂ := by
  have he : d₁.entries = d₂.entries :=
    entries_ext d₁.sorted d₂.sorted fun ⟨k, v⟩ => by
      rw [mem_entries_iff, mem_entries_iff, h]
  cases d₁; cases d₂; simp_all

theorem get?_foldl_insert {es : List (String × α)} (h : es.Pairwise (·.1 < ·.1)) (d : Dict α)
    (k : String) : (es.foldl (fun d e => d.insert e.1 e.2) d).get? k = (find k es).or (d.get? k) := by
  induction es generalizing d with
  | nil => rfl
  | cons e rest ih =>
    obtain ⟨hfirst, hrest⟩ := List.pairwise_cons.1 h
    rw [List.foldl_cons, ih hrest, get?_insert]
    obtain ⟨k', v⟩ := e
    by_cases hk : k = k'
    · subst hk
      have hnone : find k rest = none := by
        cases hfind : find k rest with
        | none => rfl
        | some w =>
          have hmem := mem_of_find_eq_some hfind
          exact absurd (hfirst _ hmem) (String.lt_irrefl k)
      simp [find, hnone]
    · simp [find, hk]

theorem get?_union (d other : Dict α) (k : String) :
    (d.union other).get? k = (other.get? k).or (d.get? k) :=
  get?_foldl_insert other.sorted d k

theorem get?_modify (d : Dict α) (k j : String) (f : α → α) :
    (d.modify k f).get? j = if j = k then (d.get? j).map f else d.get? j := by
  unfold modify
  split
  · next v hv =>
    rw [get?_insert]
    split
    · next hj => rw [hj, hv, Option.map_some]
    · rfl
  · next hnone =>
    split
    · next hj => rw [hj, hnone, Option.map_none]
    · rfl

theorem get?_foldl_modify {names : List String} (h : names.Nodup) (f : α → α) (d : Dict α)
    (k : String) : (names.foldl (fun d name => d.modify name f) d).get? k =
      if k ∈ names then (d.get? k).map f else d.get? k := by
  induction names generalizing d with
  | nil => rfl
  | cons name names ih =>
    obtain ⟨hname, hnames⟩ := List.nodup_cons.1 h
    rw [List.foldl_cons, ih hnames, get?_modify]
    by_cases hk : k = name
    · subst hk
      simp [hname]
    · simp [hk]

/-- A dictionary is the dictionary of its entries. -/
theorem ofList_entries (d : Dict α) : ofList d.entries = d :=
  ext_get? fun k => by
    rw [ofList, get?_foldl_insert d.sorted, get?_empty, Option.or_none]
    rfl

end Dict
end HealthAgent
