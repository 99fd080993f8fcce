import BrokerRollout.Proofs.MemoryCalls

/-!
# Stores as catalogs

What operations on a store answer can be told from which resources it holds, as long as nothing but
these operations happens to it. A store for which one operation answers so, whatever it holds, also
answers all operations in a row so (`Store.Implements.answers`). The store in memory is one
(`MemoryStore.implements`).
-/

namespace BrokerRollout

variable {σ : Type}

/-! ### Operations -/

namespace Store

/-- An operation of a store. -/
inductive Op where
  | create (resource : Resource)
  | get (ref : Ref)
  | delete (ref : Ref)
deriving DecidableEq

/-- What an operation answers. -/
inductive Answer where
  | written (result : Except Error Unit)
  | read (result : Except Error (Option Observation))

/-- The answer without the version of what was observed. -/
def Answer.unversioned : Answer → Answer
  | .read (.ok (some found)) => .read (.ok (some { found with version := none }))
  | answer => answer

/-- One operation. -/
def perform (s : Store σ) (now : Nat) (state : σ) : Op → Reply σ Answer
  | .create resource => (s.create resource now state).map .written
  | .get ref => (s.get ref now state).map .read
  | .delete ref => (s.delete ref now state).map .written

/-- The answers to operations in a row. -/
def performAll (s : Store σ) (now : Nat) (state : σ) : List Op → List Answer
  | [] => []
  | op :: ops =>
    let reply := s.perform now state op
    reply.answer :: s.performAll (now + reply.took) reply.state ops

end Store

/-! ### Catalogs -/

/-- The resources that a store holds. -/
abbrev Catalog := List Ref

namespace Catalog

/-- What an operation answers by what is held. -/
def answer (held : Catalog) : Store.Op → Store.Answer
  | .create resource =>
    .written (if resource.ref ∈ held then .error (.alreadyExists resource.ref) else .ok ())
  | .get ref =>
    .read (.ok (if ref ∈ held then some { ref, ready := [], version := none } else none))
  | .delete _ => .written (.ok ())

/-- What is held after an operation. -/
def after (held : Catalog) : Store.Op → Catalog
  | .create resource => if resource.ref ∈ held then held else resource.ref :: held
  | .get _ => held
  | .delete ref => held.filter (· ≠ ref)

/-- What operations in a row answer. -/
def answers (held : Catalog) : List Store.Op → List Store.Answer
  | [] => []
  | op :: ops => held.answer op :: (held.after op).answers ops

end Catalog

/-- The store answers each sound operation by the catalog of what it holds. -/
structure Store.Implements (s : Store σ) (sound : Op → Prop)
    (Holds : σ → Catalog → Prop) : Prop where
  step : ∀ {op : Op} {state : σ} {held : Catalog} (now : Nat), sound op → Holds state held →
    (s.perform now state op).answer.unversioned = held.answer op ∧
      Holds (s.perform now state op).state (held.after op)

theorem Store.Implements.answers {s : Store σ} {sound : Op → Prop} {Holds : σ → Catalog → Prop}
    (h : s.Implements sound Holds) {ops : List Op} (allSound : ∀ op ∈ ops, sound op) {state : σ}
    {held : Catalog} (holds : Holds state held) (now : Nat) :
    (s.performAll now state ops).map Answer.unversioned = held.answers ops := by
  induction ops generalizing state held now with
  | nil => rfl
  | cons op ops ih =>
    obtain ⟨here, allSound⟩ := List.forall_mem_cons.1 allSound
    obtain ⟨same, next⟩ := h.step now here holds
    rw [performAll, List.map_cons, same, ih allSound next, Catalog.answers]

/-! ### The store in memory -/

namespace MemoryStore

/-- The store holds just the resources of the catalog, and nobody has interfered with it. -/
structure Holds (m : MemoryStore) (held : Catalog) : Prop where
  contains : ∀ ref, m.contains ref = true ↔ ref ∈ held
  entry : ∀ ref stored, m.resources.get? ref = some stored →
    stored.resource.ref = ref ∧ stored.ready = 0
  unscripted : ∀ ref, m.rollouts.get? ref = none
  unarmed : ∀ ref, m.rejections.get? ref = none
  deletable : m.undeletable = []

theorem holds_empty : Holds {} [] where
  contains ref := by simp [MemoryStore.contains, Table.contains, Table.get?]
  entry ref stored found := nomatch found
  unscripted _ := rfl
  unarmed _ := rfl
  deletable := rfl

theorem observe_unready {stored : Stored} (unready : stored.ready = 0) :
    stored.observe =
      { ref := stored.resource.ref, ready := [], version := some (toString stored.version) } := by
  rw [Stored.observe, unready]
  cases stored.resource <;> rfl

namespace Holds

variable {m : MemoryStore} {held : Catalog}

theorem create (h : m.Holds held) (r : Resource) :
    (Store.Answer.written (m.create r).1).unversioned = held.answer (.create r) ∧
      (m.create r).2.Holds (held.after (.create r)) := by
  by_cases there : r.ref ∈ held
  · rw [create_of_contains (h.unarmed r.ref) ((h.contains r.ref).2 there), Catalog.answer,
      Catalog.after, if_pos there, if_pos there]
    exact ⟨rfl, h⟩
  · have absent : m.contains r.ref = false :=
      Bool.eq_false_iff.2 fun holds => there ((h.contains r.ref).1 holds)
    rw [create_of_free (h.unarmed r.ref) absent, Catalog.answer, Catalog.after, if_neg there,
      if_neg there]
    refine ⟨rfl, fun ref => ?_, fun ref stored found => ?_, h.unscripted, h.unarmed, h.deletable⟩
    · have before := h.contains ref
      rw [contains_eq] at before ⊢
      simp only [holding, Table.get?_insert, List.mem_cons, ← before]
      split <;> simp_all
    · simp only [holding, Table.get?_insert] at found
      split at found
      · next same =>
        cases found
        exact ⟨same.symm, rfl⟩
      · exact h.entry ref stored found

theorem get (h : m.Holds held) (ref : Ref) :
    (Store.Answer.read (.ok (m.get ref).1)).unversioned = held.answer (.get ref) ∧
      (m.get ref).2.Holds (held.after (.get ref)) := by
  have there := h.contains ref
  rw [contains_eq] at there
  cases found : m.resources.get? ref with
  | none =>
    rw [found] at there
    have absent : ref ∉ held := fun member => nomatch there.2 member
    rw [get_of_none found, Catalog.answer, if_neg absent]
    exact ⟨rfl, h.contains, h.entry, h.unscripted, h.unarmed, h.deletable⟩
  | some stored =>
    rw [found] at there
    obtain ⟨named, unready⟩ := h.entry ref stored found
    have unscripted : m.scripted? ref = none := by rw [scripted?, h.unscripted ref]; rfl
    have still : m.shown ref stored = stored := by rw [shown, unscripted]; rfl
    rw [get_of_some found, still, observe_unready unready, Catalog.answer, if_pos (there.1 rfl),
      named]
    -- The entry that is written back is the one that was there.
    have kept (other : Ref) :
        (m.showing ref stored).resources.get? other = m.resources.get? other := by
      simp only [showing, Table.get?_modify, still]
      split
      · next same => rw [same, found, Option.map_some]
      · rfl
    refine ⟨rfl, fun other => ?_, fun other entry present => ?_, fun other => ?_, h.unarmed,
      h.deletable⟩
    · rw [contains_eq, kept, ← contains_eq]
      exact h.contains other
    · exact h.entry other entry (kept other ▸ present)
    · simp only [showing, Table.get?_modify, h.unscripted, Option.map_none, ite_self]

theorem delete (h : m.Holds held) (ref : Ref) :
    (Store.Answer.written (m.delete ref).1).unversioned = held.answer (.delete ref) ∧
      (m.delete ref).2.Holds (held.after (.delete ref)) := by
  have free : ref ∉ m.undeletable := h.deletable ▸ List.not_mem_nil
  have deleted : m.delete ref = (.ok (), m.without ref) := if_neg free
  rw [deleted]
  refine ⟨rfl, fun other => ?_, fun other entry found => ?_, fun other => ?_, h.unarmed,
    h.deletable⟩
  · have before := h.contains other
    rw [contains_eq] at before ⊢
    simp only [without, Table.get?_erase, Catalog.after, List.mem_filter, ← before]
    split <;> simp_all
  · simp only [without, Table.get?_erase] at found
    split at found
    · cases found
    · exact h.entry other entry found
  · simp only [without, Table.get?_erase, h.unscripted, ite_self]

end Holds

theorem implements : store.Implements (fun _ => True) Holds where
  step {op m held} _ _ holds := by
    cases op with
    | create r => exact holds.create r
    | get ref => exact holds.get ref
    | delete ref => exact holds.delete ref

end MemoryStore

end BrokerRollout
