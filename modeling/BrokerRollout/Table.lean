/-!
# Tables

A table holds at most one value for each key. Main statements: what a look-up finds after an
insertion, an erasure or a change (`Table.get?_insert`, `Table.get?_erase`, `Table.get?_modify`).
-/

namespace BrokerRollout

/-- Values by key, the latest key first. -/
structure Table (κ ν : Type) where
  entries : List (κ × ν) := []
  nodup : (entries.map Prod.fst).Nodup := by simp

namespace Table

variable {κ ν : Type} [DecidableEq κ]

def get? (t : Table κ ν) (k : κ) : Option ν := (t.entries.find? (·.1 = k)).map (·.2)

def contains (t : Table κ ν) (k : κ) : Bool := (t.get? k).isSome

def size (t : Table κ ν) : Nat := t.entries.length

/-- The table without the value of `k`. -/
def erase (t : Table κ ν) (k : κ) : Table κ ν where
  entries := t.entries.filter (·.1 ≠ k)
  nodup := t.nodup.sublist ((List.filter_sublist).map Prod.fst)

/-- The table with `v` for `k`, in place of what it held for `k`. -/
def insert (t : Table κ ν) (k : κ) (v : ν) : Table κ ν where
  entries := (k, v) :: (t.erase k).entries
  nodup := by
    refine List.nodup_cons.2 ⟨?_, (t.erase k).nodup⟩
    simp [erase]

/-- The table with the value of `k`, if it has one, changed by `f`. -/
def modify (t : Table κ ν) (k : κ) (f : ν → ν) : Table κ ν where
  entries := t.entries.map fun (key, v) => (key, if key = k then f v else v)
  nodup := by simpa [Function.comp_def] using t.nodup

omit [DecidableEq κ] in
@[simp] theorem entries_default : (default : List (κ × ν)) = [] := rfl

theorem get?_erase (t : Table κ ν) (k j : κ) :
    (t.erase k).get? j = if j = k then none else t.get? j := by
  unfold get? erase
  simp only [List.find?_filter]
  split
  · subst_vars
    rw [List.find?_eq_none.2 (by simp)]; rfl
  · congr 2
    funext e
    by_cases h : e.1 = j <;> simp_all

theorem erase_erase (t : Table κ ν) (k : κ) : (t.erase k).erase k = t.erase k := by
  simp [erase]

theorem get?_insert (t : Table κ ν) (k j : κ) (v : ν) :
    (t.insert k v).get? j = if j = k then some v else t.get? j := by
  have h := get?_erase t k j
  unfold get? insert at *
  simp only [List.find?_cons]
  by_cases hj : j = k
  · simp [hj]
  · rw [if_neg hj] at h
    simp [Ne.symm hj, hj, h]

theorem get?_modify (t : Table κ ν) (k j : κ) (f : ν → ν) :
    (t.modify k f).get? j = if j = k then (t.get? j).map f else t.get? j := by
  unfold get? modify
  simp only [List.find?_map, Option.map_map, Function.comp_def]
  cases h : t.entries.find? (fun e => e.1 = j) with
  | none => simp
  | some e =>
    have := List.find?_some h
    by_cases hj : j = k <;> simp_all

omit [DecidableEq κ] in
@[simp] theorem size_empty : ({} : Table κ ν).size = 0 := rfl

theorem size_eq_zero {t : Table κ ν} (none : ∀ k, t.get? k = none) : t.size = 0 := by
  cases entries : t.entries with
  | nil => rw [size, entries, List.length_nil]
  | cons e rest =>
    have absent := none e.1
    rw [get?, entries, List.find?_cons_of_pos (by simp)] at absent
    cases absent

theorem length_filter_key {entries : List (κ × ν)} (nodup : (entries.map Prod.fst).Nodup) (k : κ) :
    (entries.filter (·.1 ≠ k)).length + (if (entries.find? (·.1 = k)).isSome then 1 else 0) =
      entries.length := by
  induction entries with
  | nil => rfl
  | cons e rest ih =>
    obtain ⟨new, nodup⟩ := List.nodup_cons.1 nodup
    by_cases same : e.1 = k
    · -- No other entry is for `k`, and so all the others stay.
      have others : ∀ e' ∈ rest, decide (e'.1 ≠ k) = true := by
        intro e' member
        exact decide_eq_true fun other => new (same.trans other.symm ▸ List.mem_map_of_mem member)
      rw [List.filter_cons_of_neg (by simp [same]), List.filter_eq_self.2 others,
        List.find?_cons_of_pos (by simp [same])]
      rfl
    · have counts := ih nodup
      simp only [List.filter_cons, List.find?_cons, same, ne_eq, not_false_eq_true, decide_true,
        decide_false, if_true, List.length_cons] at counts ⊢
      omega

theorem size_erase (t : Table κ ν) (k : κ) :
    (t.erase k).size + (if t.contains k then 1 else 0) = t.size := by
  have counts := length_filter_key t.nodup k
  rwa [← Option.isSome_map (f := fun e : κ × ν => e.2)] at counts

@[simp] theorem size_modify (t : Table κ ν) (k : κ) (f : ν → ν) :
    (t.modify k f).size = t.size := by
  simp [size, modify]

end Table

end BrokerRollout
