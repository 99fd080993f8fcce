import BrokerRollout.Json
import Mathlib.Data.List.Sort

/-!
# Values up to the order of members

Sorting a value keeps what its objects hold and forgets in which order they hold it: a member of the
sorted value is the sorted member (`member?_sorted`), and two objects are the same when sorted just
if they have the same members of every name (`same_object_iff`).
-/

namespace BrokerRollout.Json

variable {name other : String} {value v x : Json} {m : String × Json}
  {members done : List (String × Json)}

/-! ### Members in order -/

/-- The name of one member is before that of another. -/
def Before (m m' : String × Json) : Prop := m.1 < m'.1

instance : Std.Asymm Before := ⟨fun _ _ => String.lt_asymm⟩

theorem lt_of_not_lt {a b : String} (notLess : ¬a < b) (ne : a ≠ b) : b < a := by
  have le : b ≤ a := String.not_lt.1 notLess
  exact String.not_le.1 fun ge => ne (String.le_antisymm ge le)

theorem mem_insertMember (ordered : members.Pairwise Before) :
    m ∈ insertMember name value members ↔ m = (name, value) ∨ m.1 ≠ name ∧ m ∈ members := by
  induction members with
  | nil => simp [insertMember]
  | cons first rest ih =>
    obtain ⟨least, ordered⟩ := List.pairwise_cons.1 ordered
    have after : ∀ {k : String}, ¬first.1 < k → m ∈ rest → m.1 ≠ k := by
      rintro k notLess inRest rfl
      exact notLess (least m inRest)
    rw [insertMember.eq_2]
    by_cases less : name < first.1
    · have notFirst : first.1 ≠ name := by
        rintro rfl
        exact String.lt_irrefl _ less
      have notRest : m ∈ rest → m.1 ≠ name := after (String.lt_asymm less)
      grind
    · by_cases same : name = first.1
      · have notRest : m ∈ rest → m.1 ≠ name := after (same ▸ String.lt_irrefl name)
        grind
      · grind

theorem ordered_insertMember (ordered : members.Pairwise Before) :
    (insertMember name value members).Pairwise Before := by
  induction members with
  | nil => simp [insertMember]
  | cons first rest ih =>
    obtain ⟨least, ordered'⟩ := List.pairwise_cons.1 ordered
    rw [insertMember.eq_2]
    split
    next less =>
      refine List.pairwise_cons.2 ⟨?_, ordered⟩
      rintro m (_ | ⟨_, inRest⟩)
      · exact less
      · exact String.lt_trans less (least m inRest)
    next notLess =>
      split
      next same =>
        subst same
        exact List.pairwise_cons.2 ⟨least, ordered'⟩
      next ne =>
        refine List.pairwise_cons.2 ⟨fun m inserted => ?_, ih ordered'⟩
        rcases (mem_insertMember ordered').1 inserted with rfl | ⟨-, inRest⟩
        · exact lt_of_not_lt notLess ne
        · exact least m inRest

theorem ordered_sortedMembers (ordered : done.Pairwise Before) (members : List (String × Json)) :
    (sortedMembers done members).Pairwise Before := by
  induction members generalizing done with
  | nil => simpa [sortedMembers] using ordered
  | cons first rest ih => exact ih (ordered_insertMember ordered)

/-! ### Looking up members -/

theorem member?_nil : member? name (.object []) = none := rfl

theorem member?_cons : member? name (.object (m :: members)) =
    (member? name (.object members)).or (if m.1 = name then some m.2 else none) := by
  simp only [member?, List.reverse_cons, List.find?_append, Option.map_or]
  grind

theorem member?_eq_some_iff_of_ordered (ordered : members.Pairwise Before) :
    member? name (.object members) = some v ↔ (name, v) ∈ members := by
  induction members generalizing v with
  | nil => simp [member?_nil]
  | cons first rest ih =>
    obtain ⟨least, ordered⟩ := List.pairwise_cons.1 ordered
    rw [member?_cons, List.mem_cons, ← ih ordered]
    by_cases same : first.1 = name
    · subst same
      have notAfter : member? first.1 (.object rest) = none := by
        refine Option.eq_none_iff_forall_ne_some.2 fun v' found => ?_
        exact String.lt_irrefl _ (least (first.1, v') ((ih ordered).1 found))
      simp [notAfter, Prod.ext_iff, eq_comm]
    · simp [same, Prod.ext_iff, eq_comm]

theorem member?_insertMember (ordered : members.Pairwise Before) :
    member? name (.object (insertMember other value members)) =
      if name = other then some value else member? name (.object members) := by
  ext v
  rw [member?_eq_some_iff_of_ordered (ordered_insertMember ordered), mem_insertMember ordered]
  split
  next same => simp [same, eq_comm]
  next ne => simp [ne, member?_eq_some_iff_of_ordered ordered]

theorem member?_sortedMembers (ordered : done.Pairwise Before) (members : List (String × Json)) :
    member? name (.object (sortedMembers done members)) =
      ((member? name (.object members)).map sorted).or (member? name (.object done)) := by
  induction members generalizing done with
  | nil => simp [sortedMembers, member?_nil]
  | cons first rest ih =>
    rw [sortedMembers, ih (ordered_insertMember ordered), member?_insertMember ordered,
      member?_cons]
    grind

/-! ### Sorted values -/

theorem member?_sorted (x : Json) : x.sorted.member? name = (x.member? name).map sorted := by
  cases x with
  | object members =>
    rw [sorted, member?_sortedMembers .nil, member?_nil, Option.or_none]
  | _ => rfl

theorem sortedItems_eq_map (items : List Json) : sortedItems items = items.map sorted := by
  induction items with
  | nil => rfl
  | cons item rest ih => rw [sortedItems, ih, List.map_cons]

/-! ### Same values -/

/-- Two values are the same but for the order of the members of objects. -/
def Same (x y : Json) : Prop := x.sorted = y.sorted

theorem Same.refl (x : Json) : x.Same x := Eq.refl _

theorem same_object_iff {ms ns : List (String × Json)} : (object ms).Same (object ns) ↔
    ∀ name, ((object ms).member? name).map sorted = ((object ns).member? name).map sorted := by
  constructor
  · intro same name
    rw [← member?_sorted, ← member?_sorted, same]
  · intro same
    rw [Same, sorted, sorted]
    refine congrArg object (List.Pairwise.eq_of_mem_iff (ordered_sortedMembers .nil ms)
      (ordered_sortedMembers .nil ns) fun m => ?_)
    rw [← member?_eq_some_iff_of_ordered (ordered_sortedMembers .nil ms),
      ← member?_eq_some_iff_of_ordered (ordered_sortedMembers .nil ns),
      member?_sortedMembers .nil, member?_sortedMembers .nil, same]

namespace Same

variable {y : Json}

theorem member? (same : x.Same y) (name : String) (held : y.member? name = some v) :
    ∃ u, x.member? name = some u ∧ u.Same v := by
  have found : (x.member? name).map sorted = some v.sorted := by
    rw [← member?_sorted, same, member?_sorted, held, Option.map_some]
  exact Option.map_eq_some_iff.1 found

theorem noMember (same : x.Same y) (missing : y.member? name = none) : x.member? name = none := by
  have notFound : (x.member? name).map sorted = none := by
    rw [← member?_sorted, same, member?_sorted, missing, Option.map_none]
  exact Option.map_eq_none_iff.1 notFound

theorem null (same : x.Same .null) : x = .null := by
  cases x <;> simp_all [Same, sorted]

theorem bool {b : Bool} (same : x.Same (.bool b)) : x = .bool b := by
  cases x <;> simp_all [Same, sorted]

theorem number {n : Number} (same : x.Same (.number n)) : x = .number n := by
  cases x <;> simp_all [Same, sorted]

theorem string {text : String} (same : x.Same (.string text)) : x = .string text := by
  cases x <;> simp_all [Same, sorted]

theorem array {values : List Json} (same : x.Same (.array values)) :
    ∃ items, x = .array items ∧ List.Forall₂ Same items values := by
  cases x with
  | array items =>
    simp only [Same, sorted, sortedItems_eq_map, Json.array.injEq] at same
    have each : List.Forall₂ Eq (items.map sorted) (values.map sorted) := by
      rw [same, List.forall₂_eq_eq_eq]
    rw [List.forall₂_map_left_iff, List.forall₂_map_right_iff] at each
    exact ⟨items, rfl, each⟩
  | _ => simp [Same, sorted] at same

end Same

end BrokerRollout.Json
