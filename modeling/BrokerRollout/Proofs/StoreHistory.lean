import BrokerRollout.Proofs.MemoryCalls

/-!
# Histories of a store in memory

`MemoryStore.Steps` lists what one operation can do. A history is then a list of deeds, each with the
store before and after it, and the store keeps a ledger of them: its counters tell how many there
were of each kind, versions are given out one after the other and never twice, and every entry is
found under its own resource. Main statement: `run_ledger`.
-/

namespace BrokerRollout.MemoryStore

variable {m m' : MemoryStore} {op : Op} {answer : Answer} {ref : Ref}

/-! ### One operation -/

/-- An operation with its answer and the store after it. -/
inductive Steps : MemoryStore → Op → Answer → MemoryStore → Prop where
  | create {m m' : MemoryStore} {r : Resource} {result : Except Store.Error Unit}
      (answers : Answers m (.create r result) m') : Steps m (.create r) (.written result) m'
  | get {m m' : MemoryStore} {ref : Ref} {found : Option Store.Observation}
      (answers : Answers m (.get ref (.ok found)) m') : Steps m (.get ref) (.read found) m'
  | delete {m m' : MemoryStore} {ref : Ref} {result : Except Store.Error Unit}
      (answers : Answers m (.delete ref result) m') : Steps m (.delete ref) (.written result) m'
  | contains {m : MemoryStore} {ref : Ref} : Steps m (.contains ref) (.flag (m.contains ref)) m
  | setReady {m : MemoryStore} {ref : Ref} {ready : Nat} :
      Steps m (.setReady ref ready) .done (m.setReady ref ready)
  | scriptRollout {m : MemoryStore} {ref : Ref} {counts : List Nat} :
      Steps m (.scriptRollout ref counts) .done (m.scriptRollout ref counts)
  | rejectCreate {m : MemoryStore} {ref : Ref} {reason : String} :
      Steps m (.rejectCreate ref reason) .done (m.rejectCreate ref reason)
  | failDeletes {m : MemoryStore} {ref : Ref} :
      Steps m (.failDeletes ref) .done (m.failDeletes ref)

theorem step_steps (m : MemoryStore) (op : Op) : Steps m op (m.step op).1 (m.step op).2 := by
  cases op with
  | create r => exact .create (create_answers r m)
  | get ref => exact .get (get_answers ref m)
  | delete ref => exact .delete (delete_answers ref m)
  | contains ref => exact .contains
  | setReady ref ready => exact .setReady
  | scriptRollout ref counts => exact .scriptRollout
  | rejectCreate ref reason => exact .rejectCreate
  | failDeletes ref => exact .failDeletes

/-! ### Deeds -/

/-- An operation as it was done, with the store before and after it. -/
structure Deed where
  before : MemoryStore
  op : Op
  answer : Answer
  after : MemoryStore

/-- The operations of a history as they are done. -/
def deeds (m : MemoryStore) : List Op → List Deed
  | [] => []
  | op :: ops => ⟨m, op, (m.step op).1, (m.step op).2⟩ :: (m.step op).2.deeds ops

theorem run_cons (m : MemoryStore) (op : Op) (ops : List Op) :
    (m.run (op :: ops)).2 = ((m.step op).2.run ops).2 := rfl

theorem deeds_answers (m : MemoryStore) (ops : List Op) :
    (m.deeds ops).map (fun d => (d.op, d.answer)) = ops.zip (m.run ops).1 := by
  induction ops generalizing m with
  | nil => rfl
  | cons op ops ih => exact congrArg (_ :: ·) (ih (m.step op).2)

namespace Deed

/-- The resource that a creation has succeeded for. -/
def created? (d : Deed) : Option Ref :=
  match d.op, d.answer with
  | .create r, .written (.ok ()) => some r.ref
  | _, _ => none

/-- The resource whose entry was there before a deletion, and not after it. -/
def removed? (d : Deed) : Option Ref :=
  match d.op with
  | .delete ref => if d.before.contains ref && !d.after.contains ref then some ref else none
  | _ => none

/-- The resource that was asked for. -/
def read? (d : Deed) : Option Ref :=
  match d.op with
  | .get ref => some ref
  | _ => none

/-- The version under which a creation has stored its resource. -/
def issued? (d : Deed) : Option Nat :=
  d.created?.bind fun ref => (d.after.resources.get? ref).map (·.version)

/-- What one deed does to the counters. -/
structure Counts (d : Deed) : Prop where
  versions : d.after.versions = d.before.versions + d.created?.toList.length
  mutations : d.after.mutations =
    d.before.mutations + (d.created?.toList.length + d.removed?.toList.length)
  size : d.after.size + d.removed?.toList.length = d.before.size + d.created?.toList.length
  reads : d.after.reads = d.before.reads + d.read?.toList.length

end Deed

theorem size_without (m : MemoryStore) (ref : Ref) :
    (m.without ref).size + (if m.contains ref then 1 else 0) = m.size :=
  Table.size_erase m.resources ref

theorem size_holding {r : Resource} (absent : m.contains r.ref = false) :
    (m.holding r).size = m.size + 1 := by
  have shrunk := Table.size_erase m.resources r.ref
  rw [show m.resources.contains r.ref = false from absent] at shrunk
  exact congrArg (· + 1) shrunk

theorem contains_without (m : MemoryStore) (ref : Ref) : (m.without ref).contains ref = false := by
  simp [contains_eq, without, Table.get?_erase]

theorem Steps.counts (h : Steps m op answer m') : Deed.Counts ⟨m, op, answer, m'⟩ := by
  cases h with
  | create answers =>
    cases answers with
    | created _ absent => exact ⟨rfl, rfl, size_holding absent, rfl⟩
    | rejected | collided => exact ⟨rfl, rfl, rfl, rfl⟩
  | get answers =>
    cases answers with
    | missed => exact ⟨rfl, rfl, rfl, rfl⟩
    | found => exact ⟨rfl, rfl, Table.size_modify _ _ _, rfl⟩
  | @delete _ ref _ answers =>
    cases answers with
    | deleted =>
      have shrunk := size_without m ref
      have gone : Deed.removed? ⟨m, .delete ref, .written (.ok ()), m.without ref⟩ =
          if m.contains ref then some ref else none := by
        simp [Deed.removed?, contains_without]
      refine ⟨rfl, ?_, ?_, rfl⟩ <;> rw [gone]
      · cases there : m.contains ref <;> simp [without, Deed.created?, there]
      · cases there : m.contains ref <;> simpa [Deed.created?, there] using shrunk
    | undeleted e =>
      have kept : Deed.removed? ⟨m, .delete ref, .written (.error e), m⟩ = none := by
        simp [Deed.removed?]
      refine ⟨rfl, ?_, ?_, rfl⟩ <;> rw [kept] <;> rfl
  | setReady => exact ⟨rfl, rfl, Table.size_modify _ _ _, rfl⟩
  | contains | scriptRollout | rejectCreate | failDeletes => exact ⟨rfl, rfl, rfl, rfl⟩

/-- The only entry that an operation adds is that of a resource it has created. -/
theorem Steps.entry (h : Steps m op answer m') {stored : Stored}
    (there : m'.resources.get? ref = some stored) :
    (∃ held, m.resources.get? ref = some held ∧ held.resource = stored.resource ∧
        held.version = stored.version) ∨
      (Deed.created? ⟨m, op, answer, m'⟩ = some ref ∧ stored.resource.ref = ref ∧
        stored.version = m.versions + 1) := by
  cases h with
  | create answers =>
    cases answers with
    | @created _ r =>
      simp only [holding, Table.get?_insert] at there
      split at there
      · next same =>
        obtain rfl := Option.some.inj there
        exact .inr ⟨congrArg some same.symm, same.symm, rfl⟩
      · exact .inl ⟨stored, there, rfl, rfl⟩
    | rejected | collided => exact .inl ⟨stored, there, rfl, rfl⟩
  | get answers =>
    cases answers with
    | missed => exact .inl ⟨stored, there, rfl, rfl⟩
    | @found _ held present =>
      simp only [showing, Table.get?_modify] at there
      split at there
      · next same =>
        subst same
        rw [present] at there
        obtain rfl := Option.some.inj there
        exact .inl ⟨held, present, rfl, rfl⟩
      · exact .inl ⟨stored, there, rfl, rfl⟩
  | delete answers =>
    cases answers with
    | deleted =>
      simp only [without, Table.get?_erase] at there
      split at there
      · cases there
      · exact .inl ⟨stored, there, rfl, rfl⟩
    | undeleted => exact .inl ⟨stored, there, rfl, rfl⟩
  | setReady =>
    simp only [MemoryStore.setReady, Table.get?_modify] at there
    split at there
    · obtain ⟨held, present, rfl⟩ := Option.map_eq_some_iff.1 there
      exact .inl ⟨held, present, rfl, rfl⟩
    · exact .inl ⟨stored, there, rfl, rfl⟩
  | contains | scriptRollout | rejectCreate | failDeletes => exact .inl ⟨stored, there, rfl, rfl⟩

theorem Steps.issued (h : Steps m op answer m') :
    Deed.issued? ⟨m, op, answer, m'⟩ =
      (Deed.created? ⟨m, op, answer, m'⟩).map fun _ => m.versions + 1 := by
  cases made : Deed.created? ⟨m, op, answer, m'⟩ with
  | none => simp [Deed.issued?, made]
  | some ref =>
    cases h with
    | create answers =>
      cases answers with
      | @created r =>
        rw [Deed.issued?, made, Option.bind_some, ← Option.some.inj made]
        simp [holding, Table.get?_insert]
      | rejected | collided => cases made
    | get | delete | contains | setReady | scriptRollout | rejectCreate | failDeletes => cases made

/-! ### Whole histories -/

/-- What is so in a store after the deeds done since it was new. -/
structure Ledger (done : List Deed) (m : MemoryStore) : Prop where
  own : ∀ {ref stored}, m.resources.get? ref = some stored → stored.resource.ref = ref
  versions : m.versions = (done.filterMap Deed.created?).length
  /-- Each creation has issued the next version, also for a resource that was there before. -/
  issued : done.filterMap Deed.issued? = List.range' 1 m.versions
  bounds : ∀ {ref stored}, m.resources.get? ref = some stored →
    1 ≤ stored.version ∧ stored.version ≤ m.versions
  distinct : ∀ {ref ref' stored stored'}, m.resources.get? ref = some stored →
    m.resources.get? ref' = some stored' → stored.version = stored'.version → ref = ref'
  mutations : m.mutations =
    (done.filterMap Deed.created?).length + (done.filterMap Deed.removed?).length
  size : m.size + (done.filterMap Deed.removed?).length = (done.filterMap Deed.created?).length
  reads : m.reads = (done.filterMap Deed.read?).length

namespace Ledger

variable {done : List Deed}

theorem empty : Ledger [] {} where
  own there := nomatch there
  versions := rfl
  issued := rfl
  bounds there := nomatch there
  distinct there := nomatch there
  mutations := rfl
  size := rfl
  reads := rfl

theorem length_filterMap_snoc {α : Type} (f : Deed → Option α) (done : List Deed) (d : Deed) :
    ((done ++ [d]).filterMap f).length = (done.filterMap f).length + (f d).toList.length := by
  rw [List.filterMap_append, List.length_append]
  cases found : f d <;> simp [found]

theorem step (ledger : Ledger done m) (h : Steps m op answer m') :
    Ledger (done ++ [⟨m, op, answer, m'⟩]) m' where
  own there := by
    obtain ⟨held, present, same, -⟩ | ⟨-, own, -⟩ := h.entry there
    · exact same ▸ ledger.own present
    · exact own
  versions := by
    rw [length_filterMap_snoc, h.counts.versions, ledger.versions]
  issued := by
    rw [List.filterMap_append, ledger.issued, h.counts.versions]
    cases made : Deed.created? ⟨m, op, answer, m'⟩ with
    | none => simp [h.issued, made]
    | some ref => simp [h.issued, made, List.range'_concat, Nat.add_comm]
  bounds there := by
    have grown := h.counts.versions
    obtain ⟨held, present, -, same⟩ | ⟨made, -, new⟩ := h.entry there
    · have old := ledger.bounds present
      dsimp only at grown
      omega
    · simp only [made, Option.toList_some, List.length_singleton] at grown
      omega
  distinct there there' same := by
    -- A new entry has a version that no entry had before.
    obtain ⟨held, present, -, old⟩ | ⟨made, -, new⟩ := h.entry there <;>
      obtain ⟨held', present', -, old'⟩ | ⟨made', -, new'⟩ := h.entry there'
    · exact ledger.distinct present present' (by omega)
    · have := ledger.bounds present
      omega
    · have := ledger.bounds present'
      omega
    · exact Option.some.inj (made.symm.trans made')
  mutations := by
    have raised := h.counts.mutations
    have before := ledger.mutations
    dsimp only at raised
    rw [length_filterMap_snoc, length_filterMap_snoc]
    omega
  size := by
    have changed := h.counts.size
    have before := ledger.size
    dsimp only at changed
    rw [length_filterMap_snoc, length_filterMap_snoc]
    omega
  reads := by
    rw [length_filterMap_snoc, h.counts.reads, ledger.reads]

theorem run (ledger : Ledger done m) (ops : List Op) :
    Ledger (done ++ m.deeds ops) (m.run ops).2 := by
  induction ops generalizing done m with
  | nil => simpa [deeds, MemoryStore.run] using ledger
  | cons op ops ih =>
    have next := ih (ledger.step (step_steps m op))
    rwa [List.append_assoc] at next

end Ledger

theorem get_shows (own : ∀ {ref stored}, m.resources.get? ref = some stored → stored.resource.ref = ref)
    {found : Store.Observation} (read : (m.get ref).1 = some found) :
    ∃ stored, (m.get ref).2.resources.get? ref = some stored ∧ found =
      { ref
        ready := match stored.resource with
          | .cluster c => (List.range stored.ready).map c.workerName
          | _ => []
        version := some (toString stored.version) } := by
  cases held : m.resources.get? ref with
  | none =>
    rw [get_of_none held] at read
    cases read
  | some stored =>
    rw [get_of_some held] at read ⊢
    refine ⟨m.shown ref stored, by simp [showing, Table.get?_modify, held], ?_⟩
    rw [← Option.some.inj read, ← own held]
    rfl

/-- In every state that a history leads to from a new store: its counters, versions and entries are
those of the ledger, and a read that finds something shows the resource that was asked for, a
cluster with its first workers and any other resource with none. -/
theorem run_ledger (ops : List Op) :
    let m := (run {} ops).2
    (deeds {} ops).map (fun d => (d.op, d.answer)) = ops.zip (run {} ops).1 ∧
    Ledger (deeds {} ops) m ∧
    ∀ ref found, (m.get ref).1 = some found →
      ∃ stored, (m.get ref).2.resources.get? ref = some stored ∧ found =
        { ref
          ready := match stored.resource with
            | .cluster c => (List.range stored.ready).map c.workerName
            | _ => []
          version := some (toString stored.version) } := by
  have ledger : Ledger (deeds {} ops) (run {} ops).2 := Ledger.empty.run ops
  exact ⟨deeds_answers {} ops, ledger, fun _ _ read => get_shows ledger.own read⟩

/-- A cluster that is created again gets a version of its own. -/
theorem run_ledger_recreated :
    let c : Cluster := { name := "broker", ns := "mq", replicas := 3 }
    let ops := [.create (.cluster c), .delete c.ref, .create (.cluster c), .setReady c.ref 2]
    let m := (run {} ops).2
    let found : Store.Observation := ⟨c.ref, ["broker-ss-0", "broker-ss-1"], some "2"⟩
    (deeds {} ops).filterMap Deed.issued? = [1, 2] ∧ (m.get c.ref).1 = some found ∧
      ∃ stored, (m.get c.ref).2.resources.get? c.ref = some stored ∧
        found.version = some (toString stored.version) := by
  intro c ops m found
  have read : (m.get c.ref).1 = some found := by decide
  obtain ⟨-, ledger, shows⟩ := run_ledger ops
  obtain ⟨stored, held, same⟩ := shows c.ref found read
  exact ⟨ledger.issued, read, stored, held, congrArg Store.Observation.version same⟩

end BrokerRollout.MemoryStore
