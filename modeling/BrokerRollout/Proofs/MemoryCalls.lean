import BrokerRollout.Proofs.Course
import BrokerRollout.Store.Memory

/-!
# Calls to a store in memory

A store in memory beside an endpoint with a state of its own is changed by the calls made to it and
by nothing else, and gives every answer by the state it is in. `MemoryStore.Answers` lists what a
call can do. Main statements: calls change nothing but what they touch (`Replays.frame`), and what
is stored in the end was stored before or created by them (`Replays.contains_created`,
`Replays.contains_deleted`).
-/

namespace BrokerRollout

open Scenario (createdBy deletedBy)

variable {τ α : Type}

/-- The resource whose entry or script a call may have changed. -/
def Call.touched? : Call → Option Ref
  | .create r (.ok ()) => some r.ref
  | .get ref _ => some ref
  | .delete ref (.ok ()) => some ref
  | _ => none

def Ask.read? : Ask → Option Ref
  | .get ref => some ref
  | _ => none

/-- The resource that a call has read. -/
def readBy (c : Call) : Option Ref := c.ask.read?

/-- The resource whose creation a call has rejected. -/
def rejectedBy : Call → Option Ref
  | .create _ (.error (.rejected ref _)) => some ref
  | _ => none

namespace MemoryStore

/-- The store in memory beside an endpoint that does not touch it. -/
def backend (e : Exec.Endpoint τ) : Backend (MemoryStore × τ) where
  store := store.within Prod.fst fun memory (_, state) => (memory, state)
  endpoint := e.within Prod.snd fun state (memory, _) => (memory, state)

variable {m m' mid : MemoryStore} {c : Call} {calls more : List Call} {ref : Ref} {r : Resource}

theorem contains_eq (m : MemoryStore) (ref : Ref) :
    m.contains ref = (m.resources.get? ref).isSome := rfl

/-! ### Operations -/

/-- The store after `r` was created in it. -/
def holding (r : Resource) (m : MemoryStore) : MemoryStore :=
  { m with
    resources := m.resources.insert r.ref { resource := r, ready := 0, version := m.versions + 1 }
    versions := m.versions + 1
    mutations := m.mutations + 1 }

/-- The entry of a resource after a read that found it. -/
def shown (m : MemoryStore) (ref : Ref) (stored : Stored) : Stored :=
  { stored with ready := (m.scripted? ref).getD stored.ready }

/-- The store after a read of `ref` that found `stored`. -/
def showing (ref : Ref) (stored : Stored) (m : MemoryStore) : MemoryStore :=
  { m with
    resources := m.resources.modify ref fun _ => m.shown ref stored
    rollouts := m.rollouts.modify ref Script.advance
    reads := m.reads + 1 }

/-- The store after `ref` was deleted from it. -/
def without (ref : Ref) (m : MemoryStore) : MemoryStore :=
  { m with
    resources := m.resources.erase ref
    rollouts := m.rollouts.erase ref
    mutations := m.mutations + if m.contains ref then 1 else 0 }

theorem create_of_armed {reason : String} (armed : m.rejections.get? r.ref = some reason) :
    m.create r = (.error (.rejected r.ref reason),
      { m with rejections := m.rejections.erase r.ref }) := by
  simp [create, armed]

theorem create_of_contains (unarmed : m.rejections.get? r.ref = none)
    (there : m.contains r.ref = true) : m.create r = (.error (.alreadyExists r.ref), m) := by
  simp [create, unarmed, there]

theorem create_of_free (unarmed : m.rejections.get? r.ref = none)
    (absent : m.contains r.ref = false) : m.create r = (.ok (), m.holding r) := by
  simp [create, unarmed, absent, holding]

theorem get_of_none (absent : m.resources.get? ref = none) :
    m.get ref = (none, { m with reads := m.reads + 1 }) := by
  simp [get, absent]

theorem get_of_some {stored : Stored} (there : m.resources.get? ref = some stored) :
    m.get ref = (some (m.shown ref stored).observe, m.showing ref stored) := by
  simp [get, there, shown, showing, scripted?]

/-- A call that the store answers, and the store after it. -/
inductive Answers : MemoryStore → Call → MemoryStore → Prop where
  | created {m : MemoryStore} {r : Resource} (unarmed : m.rejections.get? r.ref = none)
      (absent : m.contains r.ref = false) : Answers m (.create r (.ok ())) (m.holding r)
  | rejected {m : MemoryStore} {r : Resource} {reason : String}
      (armed : m.rejections.get? r.ref = some reason) :
      Answers m (.create r (.error (.rejected r.ref reason)))
        { m with rejections := m.rejections.erase r.ref }
  | collided {m : MemoryStore} {r : Resource} (unarmed : m.rejections.get? r.ref = none)
      (there : m.contains r.ref = true) :
      Answers m (.create r (.error (.alreadyExists r.ref))) m
  | missed {m : MemoryStore} {ref : Ref} (absent : m.resources.get? ref = none) :
      Answers m (.get ref (.ok none)) { m with reads := m.reads + 1 }
  | found {m : MemoryStore} {ref : Ref} {stored : Stored}
      (there : m.resources.get? ref = some stored) :
      Answers m (.get ref (.ok (some (m.shown ref stored).observe))) (m.showing ref stored)
  | deleted {m : MemoryStore} {ref : Ref} (deletable : ref ∉ m.undeletable) :
      Answers m (.delete ref (.ok ())) (m.without ref)
  | undeleted {m : MemoryStore} {ref : Ref} (e : Store.Error) (stuck : ref ∈ m.undeletable) :
      Answers m (.delete ref (.error e)) m
  | contacted {m : MemoryStore} (request : Exec.Request)
      (answer : Except Exec.Error Exec.Session) : Answers m (.openSession request answer) m

theorem create_answers (r : Resource) (m : MemoryStore) :
    Answers m (.create r (m.create r).1) (m.create r).2 := by
  cases armed : m.rejections.get? r.ref with
  | some reason =>
    rw [create_of_armed armed]
    exact .rejected armed
  | none =>
    cases there : m.contains r.ref with
    | true =>
      rw [create_of_contains armed there]
      exact .collided armed there
    | false =>
      rw [create_of_free armed there]
      exact .created armed there

theorem get_answers (ref : Ref) (m : MemoryStore) :
    Answers m (.get ref (.ok (m.get ref).1)) (m.get ref).2 := by
  cases found : m.resources.get? ref with
  | none =>
    rw [get_of_none found]
    exact .missed found
  | some stored =>
    rw [get_of_some found]
    exact .found found

theorem delete_answers (ref : Ref) (m : MemoryStore) :
    Answers m (.delete ref (m.delete ref).1) (m.delete ref).2 := by
  unfold delete
  split
  case isTrue stuck => exact .undeleted _ stuck
  case isFalse deletable => exact .deleted deletable

namespace Answers

theorem frame (h : Answers m c m') (apart : c.touched? ≠ some ref) :
    m'.resources.get? ref = m.resources.get? ref ∧
      m'.rollouts.get? ref = m.rollouts.get? ref := by
  have other {touched : Ref} (apart : some touched ≠ some ref) : ref ≠ touched :=
    fun same => apart (congrArg some same.symm)
  cases h with
  | created =>
    exact ⟨by simp only [holding, Table.get?_insert, if_neg (other apart)], rfl⟩
  | found =>
    constructor <;> simp only [showing, Table.get?_modify, if_neg (other apart)]
  | deleted =>
    constructor <;> simp only [without, Table.get?_erase, if_neg (other apart)]
  | rejected | collided | missed | undeleted | contacted => exact ⟨rfl, rfl⟩

theorem undeletable (h : Answers m c m') : m'.undeletable = m.undeletable := by
  cases h <;> rfl

theorem reads (h : Answers m c m') : m'.reads = m.reads + (readBy c).toList.length := by
  cases h <;> rfl

theorem versions (h : Answers m c m') : m'.versions = m.versions + (createdBy c).toList.length := by
  cases h <;> rfl

theorem rejections (h : Answers m c m') :
    m'.rejections = (rejectedBy c).toList.foldl Table.erase m.rejections := by
  cases h <;> rfl

theorem mutations_kept (h : Answers m c m') (kept : deletedBy c = none) :
    m'.mutations = m.mutations + (createdBy c).toList.length := by
  cases h <;> first | rfl | cases kept

/-- What is stored after a call was stored before or has been created, and was not deleted. -/
theorem contains (h : Answers m c m') (ref : Ref) :
    m'.contains ref = true ↔
      (m.contains ref = true ∨ createdBy c = some ref) ∧ deletedBy c ≠ some ref := by
  simp only [contains_eq]
  cases h with
  | @created r =>
    by_cases same : r.ref = ref
    · simp [holding, Table.get?_insert, createdBy, deletedBy, same]
    · simp [holding, Table.get?_insert, createdBy, deletedBy, same, Ne.symm same]
  | @found read stored there =>
    by_cases same : ref = read
    · simp [showing, Table.get?_modify, createdBy, deletedBy, same, there]
    · simp [showing, Table.get?_modify, createdBy, deletedBy, same]
  | @deleted gone =>
    by_cases same : gone = ref
    · simp [without, Table.get?_erase, createdBy, deletedBy, same]
    · simp [without, Table.get?_erase, createdBy, deletedBy, same, Ne.symm same]
  | rejected | collided | missed | undeleted | contacted => simp [createdBy, deletedBy]

theorem absent (h : Answers m c m') (made : createdBy c = some ref) : m.contains ref = false := by
  cases h with
  | created _ absent =>
    obtain rfl := Option.some.inj made
    exact absent
  | rejected | collided | missed | found | deleted | undeleted | contacted => cases made

theorem mutations_deleted (h : Answers m c m')
    (there : ∀ ref, deletedBy c = some ref → m.contains ref = true) (uncreated : createdBy c = none) :
    m'.mutations = m.mutations + (deletedBy c).toList.length := by
  cases h with
  | created => cases uncreated
  | deleted => simp [without, deletedBy, there _ rfl]
  | rejected | collided | missed | found | undeleted | contacted => rfl

end Answers

/-! ### Calls in order -/

/-- The store goes through these calls, and each answer is its own. -/
inductive Replays : MemoryStore → List Call → MemoryStore → Prop where
  | done {m : MemoryStore} : Replays m [] m
  | next {m mid m' : MemoryStore} {c : Call} {calls : List Call} (here : Answers m c mid)
      (later : Replays mid calls m') : Replays m (c :: calls) m'

theorem replays_of_history {e : Exec.Endpoint τ} {w w' : World (MemoryStore × τ)}
    (h : History (backend e) w calls w') : Replays w.state.1 calls w'.state.1 := by
  induction h with
  | done => exact .done
  | pause _ _ _ _ ih => exact ih
  | call ask _ ih =>
    cases ask with
    | create r => exact .next (create_answers r _) ih
    | get ref => exact .next (get_answers ref _) ih
    | delete ref => exact .next (delete_answers ref _) ih
    | openSession request => exact .next (.contacted request _) ih

namespace Replays

theorem split (h : Replays m (calls ++ more) m') :
    ∃ mid, Replays m calls mid ∧ Replays mid more m' := by
  induction calls generalizing m with
  | nil => exact ⟨m, .done, h⟩
  | cons c calls ih =>
    cases h with
    | next here later =>
      obtain ⟨mid, first, second⟩ := ih later
      exact ⟨mid, .next here first, second⟩

/-- What none of the calls changes is as it was. -/
theorem preserved (value : MemoryStore → α)
    (step : ∀ c ∈ calls, ∀ {m m'}, Answers m c m' → value m' = value m) (h : Replays m calls m') :
    value m' = value m := by
  induction h with
  | done => rfl
  | next here _ ih =>
    obtain ⟨first, rest⟩ := List.forall_mem_cons.1 step
    exact (ih rest).trans (first here)

/-- A counter that every call raises by what it counts of that call. -/
theorem counted (counter : MemoryStore → Nat) {β : Type} {f : Call → Option β}
    (step : ∀ c ∈ calls, ∀ {m m'}, Answers m c m' → counter m' = counter m + (f c).toList.length)
    (h : Replays m calls m') : counter m' = counter m + (calls.filterMap f).length := by
  induction h with
  | done => rfl
  | @next m mid m' c calls here _ ih =>
    obtain ⟨first, rest⟩ := List.forall_mem_cons.1 step
    have counts : ((c :: calls).filterMap f).length =
        (f c).toList.length + (calls.filterMap f).length := by
      cases found : f c <;> simp [found, Nat.add_comm]
    rw [ih rest, first here, counts, Nat.add_assoc]

theorem frame (h : Replays m calls m') (apart : ∀ c ∈ calls, c.touched? ≠ some ref) :
    m'.resources.get? ref = m.resources.get? ref ∧
      m'.rollouts.get? ref = m.rollouts.get? ref :=
  ⟨h.preserved (·.resources.get? ref) fun c member => fun here =>
      (here.frame (apart c member)).1,
    h.preserved (·.rollouts.get? ref) fun c member => fun here =>
      (here.frame (apart c member)).2⟩

theorem rejections (h : Replays m calls m') :
    m'.rejections = (calls.filterMap rejectedBy).foldl Table.erase m.rejections := by
  induction h with
  | done => rfl
  | @next m mid m' c calls here _ ih =>
    rw [ih, here.rejections]
    cases found : rejectedBy c <;> simp [found]

/-- A creation is rejected for the reason that was armed for it from the start. -/
theorem armed (h : Replays m calls m') {reason : String}
    (member : .create r (.error (.rejected ref reason)) ∈ calls) :
    ref = r.ref ∧ m.rejections.get? r.ref = some reason := by
  induction h with
  | done => cases member
  | @next m mid m' c calls here _ ih =>
    rcases List.mem_cons.1 member with rfl | later
    · cases here with
      | rejected armed => exact ⟨rfl, armed⟩
    · obtain ⟨same, armed⟩ := ih later
      refine ⟨same, ?_⟩
      rw [here.rejections] at armed
      cases used : rejectedBy c with
      | none => simpa [used] using armed
      | some gone =>
        simp only [used, Option.toList_some, List.foldl_cons, List.foldl_nil,
          Table.get?_erase] at armed
        split at armed
        · cases armed
        · exact armed

theorem contains_created (h : Replays m calls m') (kept : ∀ c ∈ calls, deletedBy c = none)
    (ref : Ref) :
    m'.contains ref = true ↔ m.contains ref = true ∨ ref ∈ calls.filterMap createdBy := by
  induction h with
  | done => simp
  | @next m mid m' c calls here _ ih =>
    obtain ⟨first, rest⟩ := List.forall_mem_cons.1 kept
    have one := here.contains ref
    rw [first] at one
    rw [ih rest, one]
    simp only [List.mem_filterMap, List.mem_cons, exists_eq_or_imp]
    simp [or_assoc]

theorem contains_deleted (h : Replays m calls m') (uncreated : ∀ c ∈ calls, createdBy c = none)
    (ref : Ref) :
    m'.contains ref = true ↔ m.contains ref = true ∧ ref ∉ calls.filterMap deletedBy := by
  induction h with
  | done => simp
  | @next m mid m' c calls here _ ih =>
    obtain ⟨first, rest⟩ := List.forall_mem_cons.1 uncreated
    have one := here.contains ref
    rw [first] at one
    rw [ih rest, one]
    simp only [List.mem_filterMap, List.mem_cons, exists_eq_or_imp]
    simp [and_assoc]

/-- Nothing is created that is there already. -/
theorem absent_created (h : Replays m calls m') (kept : ∀ c ∈ calls, deletedBy c = none)
    (member : ref ∈ calls.filterMap createdBy) : m.contains ref = false := by
  obtain ⟨c, listed, made⟩ := List.mem_filterMap.1 member
  obtain ⟨before, after, rfl⟩ := List.append_of_mem listed
  obtain ⟨mid, first, second⟩ := h.split
  cases second with
  | next here _ =>
    have later := here.absent made
    have grown := first.contains_created (fun c member => kept c (List.mem_append_left _ member)) ref
    rw [← Bool.not_eq_true] at later ⊢
    exact fun there => later (grown.2 (.inl there))

theorem mutations_deleted (h : Replays m calls m') (uncreated : ∀ c ∈ calls, createdBy c = none)
    (distinct : (calls.filterMap deletedBy).Nodup)
    (there : ∀ ref ∈ calls.filterMap deletedBy, m.contains ref = true) :
    m'.mutations = m.mutations + (calls.filterMap deletedBy).length := by
  induction h with
  | done => rfl
  | @next m mid m' c calls here _ ih =>
    obtain ⟨first, rest⟩ := List.forall_mem_cons.1 uncreated
    cases gone : deletedBy c with
    | none =>
      rw [List.filterMap_cons_none gone] at distinct there ⊢
      have kept := here.mutations_deleted (by simp [gone]) first
      rw [gone] at kept
      have stays : ∀ ref ∈ calls.filterMap deletedBy, mid.contains ref = true := by
        intro ref member
        exact (here.contains ref).2 ⟨.inl (there ref member), by simp [gone]⟩
      rw [ih rest distinct stays, kept]
      rfl
    | some removed =>
      rw [List.filterMap_cons_some gone] at distinct there ⊢
      obtain ⟨new, distinct⟩ := List.nodup_cons.1 distinct
      obtain ⟨present, there⟩ := List.forall_mem_cons.1 there
      have raised := here.mutations_deleted (by simpa [gone] using present) first
      rw [gone] at raised
      -- No resource is deleted twice, and so the others are still there.
      have stays : ∀ ref ∈ calls.filterMap deletedBy, mid.contains ref = true := by
        intro ref member
        refine (here.contains ref).2 ⟨.inl (there ref member), fun same => new ?_⟩
        obtain rfl := Option.some.inj (gone.symm.trans same)
        exact member
      rw [ih rest distinct stays, raised, List.length_cons]
      simp only [Option.toList_some, List.length_singleton]
      omega

end Replays

end MemoryStore

end BrokerRollout
