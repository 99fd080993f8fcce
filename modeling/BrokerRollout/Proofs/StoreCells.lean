import BrokerRollout.Proofs.StoreHistory

/-!
# A store in memory, resource by resource

What a store in memory keeps about one resource is a cell. An operation reads and changes the cell of
its own resource only, and so a store is a family of cells that do not know of each other. The
versions of entries are left out: they are given out for the whole store. Main statement:
`run_isolated`.
-/

namespace BrokerRollout.MemoryStore

variable {m m' : MemoryStore} {op : Op} {answer : Answer} {ref : Ref}

/-- What a store keeps about one resource. -/
structure Cell where
  /-- The entry, with its ready count. -/
  held : Option (Resource × Nat) := none
  script : Option (Script Nat) := none
  rejection : Option String := none
  stuck : Bool := false
deriving DecidableEq

def cell (m : MemoryStore) (ref : Ref) : Cell where
  held := (m.resources.get? ref).map fun stored => (stored.resource, stored.ready)
  script := m.rollouts.get? ref
  rejection := m.rejections.get? ref
  stuck := m.undeletable.contains ref

/-- The answer without the version it shows. -/
def Answer.unversioned : Answer → Answer
  | .read found => .read (found.map fun o => { o with version := none })
  | answer => answer

namespace Cell

def create (r : Resource) (c : Cell) : Except Store.Error Unit × Cell :=
  match c.rejection, c.held with
  | some reason, _ => (.error (.rejected r.ref reason), { c with rejection := none })
  | none, some _ => (.error (.alreadyExists r.ref), c)
  | none, none => (.ok (), { c with held := some (r, 0) })

def get (c : Cell) : Option Store.Observation × Cell :=
  match c.held with
  | none => (none, c)
  | some (r, ready) =>
    let ready := (c.script.bind Script.current?).getD ready
    (some { Stored.observe ⟨r, ready, 0⟩ with version := none },
      { c with held := some (r, ready), script := c.script.map Script.advance })

def delete (ref : Ref) (c : Cell) : Except Store.Error Unit × Cell :=
  if c.stuck then (.error (.backend ("simulated delete failure for " ++ ref.text)), c)
  else (.ok (), { c with held := none, script := none })

/-- What an operation on the resource answers, and the cell after it. -/
def step (c : Cell) : Op → Answer × Cell
  | .create r => let (a, c) := c.create r; (.written a, c)
  | .get _ => let (a, c) := c.get; (.read a, c)
  | .delete ref => let (a, c) := c.delete ref; (.written a, c)
  | .contains _ => (.flag c.held.isSome, c)
  | .setReady _ ready =>
    (.done, { c with held := c.held.map fun (r, _) => (r, ready), script := none })
  | .scriptRollout _ counts => (.done, { c with script := some ⟨counts⟩ })
  | .rejectCreate _ reason => (.done, { c with rejection := some reason })
  | .failDeletes _ => (.done, { c with stuck := true })

def run (c : Cell) : List Op → List Answer × Cell
  | [] => ([], c)
  | op :: ops =>
    let (answer, c) := c.step op
    let (answers, c) := c.run ops
    (answer :: answers, c)

end Cell

/-! ### One operation -/

theorem contains_failDeletes (m : MemoryStore) (failed ref : Ref) :
    (m.failDeletes failed).undeletable.contains ref =
      (decide (ref = failed) || m.undeletable.contains ref) := by
  unfold failDeletes
  by_cases known : failed ∈ m.undeletable
  · by_cases same : ref = failed
    · simp [known, same]
    · simp [known, same]
  · simp [known]

theorem step_cell_other (m : MemoryStore) (apart : op.ref ≠ ref) :
    (m.step op).2.cell ref = m.cell ref := by
  have other : ref ≠ op.ref := Ne.symm apart
  have h := step_steps m op
  generalize (m.step op).1 = answer, (m.step op).2 = m' at h
  cases h with
  | create answers =>
    dsimp only [Op.ref] at other
    cases answers with
    | created => simp [cell, holding, Table.get?_insert, other]
    | rejected => simp [cell, Table.get?_erase, other]
    | collided => rfl
  | get answers =>
    dsimp only [Op.ref] at other
    cases answers with
    | missed => rfl
    | found => simp [cell, showing, Table.get?_modify, other]
  | delete answers =>
    dsimp only [Op.ref] at other
    cases answers with
    | deleted => simp [cell, without, Table.get?_erase, other]
    | undeleted => rfl
  | contains => rfl
  | setReady =>
    dsimp only [Op.ref] at other
    simp [cell, MemoryStore.setReady, Table.get?_modify, Table.get?_erase, other]
  | scriptRollout =>
    dsimp only [Op.ref] at other
    simp [cell, MemoryStore.scriptRollout, Table.get?_insert, other]
  | rejectCreate =>
    dsimp only [Op.ref] at other
    simp [cell, MemoryStore.rejectCreate, Table.get?_insert, other]
  | failDeletes =>
    dsimp only [Op.ref] at other
    exact congrArg (Cell.mk _ _ _) (by rw [contains_failDeletes, decide_eq_false other, Bool.false_or])

theorem create_cell (r : Resource) (m : MemoryStore) :
    (m.create r).1 = ((m.cell r.ref).create r).1 ∧
      (m.create r).2.cell r.ref = ((m.cell r.ref).create r).2 := by
  cases armed : m.rejections.get? r.ref with
  | some reason =>
    rw [create_of_armed armed]
    simp [Cell.create, cell, armed, Table.get?_erase]
  | none =>
    cases held : m.resources.get? r.ref with
    | some stored =>
      rw [create_of_contains armed (by simp [contains_eq, held])]
      simp [Cell.create, cell, armed, held]
    | none =>
      rw [create_of_free armed (by simp [contains_eq, held])]
      simp [Cell.create, cell, armed, held, holding, Table.get?_insert]

theorem get_cell (ref : Ref) (m : MemoryStore) :
    (m.get ref).1.map (fun o => { o with version := none }) = (m.cell ref).get.1 ∧
      (m.get ref).2.cell ref = (m.cell ref).get.2 := by
  cases held : m.resources.get? ref with
  | none =>
    rw [get_of_none held]
    simp [Cell.get, cell, held]
  | some stored =>
    rw [get_of_some held]
    simp [Cell.get, cell, held, showing, shown, scripted?, Stored.observe, Table.get?_modify]

theorem delete_cell (ref : Ref) (m : MemoryStore) :
    (m.delete ref).1 = ((m.cell ref).delete ref).1 ∧
      (m.delete ref).2.cell ref = ((m.cell ref).delete ref).2 := by
  by_cases stuck : ref ∈ m.undeletable
  · simp [MemoryStore.delete, Cell.delete, cell, stuck]
  · simp [MemoryStore.delete, Cell.delete, cell, stuck, Table.get?_erase]

theorem step_cell (m : MemoryStore) (op : Op) :
    (m.step op).1.unversioned = ((m.cell op.ref).step op).1 ∧
      (m.step op).2.cell op.ref = ((m.cell op.ref).step op).2 := by
  cases op with
  | create r =>
    obtain ⟨answer, after⟩ := create_cell r m
    exact ⟨congrArg Answer.written answer, after⟩
  | get ref =>
    obtain ⟨answer, after⟩ := get_cell ref m
    exact ⟨congrArg Answer.read answer, after⟩
  | delete ref =>
    obtain ⟨answer, after⟩ := delete_cell ref m
    exact ⟨congrArg Answer.written answer, after⟩
  | contains ref =>
    exact ⟨congrArg Answer.flag (Option.isSome_map ..).symm, rfl⟩
  | setReady ref ready =>
    refine ⟨rfl, ?_⟩
    simp [MemoryStore.step, Cell.step, MemoryStore.setReady, cell, Op.ref, Table.get?_modify,
      Table.get?_erase, Function.comp_def]
  | scriptRollout ref counts =>
    refine ⟨rfl, ?_⟩
    simp [MemoryStore.step, Cell.step, MemoryStore.scriptRollout, cell, Op.ref, Table.get?_insert]
  | rejectCreate ref reason =>
    refine ⟨rfl, ?_⟩
    simp [MemoryStore.step, Cell.step, MemoryStore.rejectCreate, cell, Op.ref, Table.get?_insert]
  | failDeletes ref =>
    refine ⟨rfl, ?_⟩
    exact congrArg (Cell.mk _ _ _) ((contains_failDeletes m ref ref).trans (by simp))

/-! ### Histories -/

/-- The operations of a history on one resource. -/
def opsOn (ref : Ref) (ops : List Op) : List Op := ops.filter (·.ref = ref)

/-- The answers that a history gives to its operations on one resource. -/
def answersOn (ref : Ref) (m : MemoryStore) (ops : List Op) : List Answer :=
  ((ops.zip (m.run ops).1).filter (·.1.ref = ref)).map (·.2.unversioned)

theorem opsOn_cons_self (op : Op) (ops : List Op) :
    opsOn op.ref (op :: ops) = op :: opsOn op.ref ops :=
  List.filter_cons_of_pos (decide_eq_true rfl)

theorem opsOn_cons_other (apart : op.ref ≠ ref) (ops : List Op) :
    opsOn ref (op :: ops) = opsOn ref ops :=
  List.filter_cons_of_neg (by simpa using apart)

theorem opsOn_opsOn (ref : Ref) (ops : List Op) : opsOn ref (opsOn ref ops) = opsOn ref ops := by
  simp [opsOn]

theorem answersOn_cons_self (m : MemoryStore) (op : Op) (ops : List Op) :
    answersOn op.ref m (op :: ops) =
      (m.step op).1.unversioned :: answersOn op.ref (m.step op).2 ops := by
  simp [answersOn, MemoryStore.run]

theorem answersOn_cons_other (m : MemoryStore) (apart : op.ref ≠ ref) (ops : List Op) :
    answersOn ref m (op :: ops) = answersOn ref (m.step op).2 ops := by
  simp [answersOn, MemoryStore.run, apart]

/-- What a history does about one resource is what its operations on the resource do to its cell. -/
theorem run_cell (m : MemoryStore) (ref : Ref) (ops : List Op) :
    answersOn ref m ops = ((m.cell ref).run (opsOn ref ops)).1 ∧
      (m.run ops).2.cell ref = ((m.cell ref).run (opsOn ref ops)).2 := by
  induction ops generalizing m with
  | nil => exact ⟨rfl, rfl⟩
  | cons op ops ih =>
    obtain ⟨answers, after⟩ := ih (m.step op).2
    by_cases here : op.ref = ref
    · subst here
      obtain ⟨answer, next⟩ := step_cell m op
      rw [next] at answers after
      rw [answersOn_cons_self, opsOn_cons_self, answers, answer]
      exact ⟨rfl, after⟩
    · rw [step_cell_other m here] at answers after
      rw [answersOn_cons_other m here, opsOn_cons_other here]
      exact ⟨answers, after⟩

theorem length_run (m : MemoryStore) (ops : List Op) : (m.run ops).1.length = ops.length := by
  induction ops generalizing m with
  | nil => rfl
  | cons op ops ih => exact congrArg (· + 1) (ih _)

/-- A history on one resource only gives all its answers to operations on it. -/
theorem answersOn_opsOn (m : MemoryStore) (ref : Ref) (ops : List Op) :
    answersOn ref m (opsOn ref ops) = (m.run (opsOn ref ops)).1.map Answer.unversioned := by
  have all : ∀ pair ∈ (opsOn ref ops).zip (m.run (opsOn ref ops)).1,
      decide (pair.1.ref = ref) = true := by
    intro pair member
    exact (List.mem_filter.1 (List.of_mem_zip member).1).2
  rw [answersOn, List.filter_eq_self.2 all, ← Function.comp_def, ← List.map_map,
    List.map_snd_zip (Nat.le_of_eq (length_run m _))]

/-- Operations on other resources are not noticed. In a history from a new store, those on one
resource are answered as they are without all the others; and where two histories have the same
operations on every resource, they give the same answers and leave the same store, but for versions
and counters. -/
theorem run_isolated (ops ops' : List Op) :
    (∀ ref, answersOn ref {} ops = (run {} (opsOn ref ops)).1.map Answer.unversioned) ∧
    ((∀ ref, opsOn ref ops = opsOn ref ops') → ∀ ref,
      let m := (run {} ops).2
      let m' := (run {} ops').2
      answersOn ref {} ops = answersOn ref {} ops' ∧
      (m.resources.get? ref).map (fun stored => (stored.resource, stored.ready)) =
        (m'.resources.get? ref).map (fun stored => (stored.resource, stored.ready)) ∧
      m.contains ref = m'.contains ref ∧
      m.rollouts.get? ref = m'.rollouts.get? ref ∧
      m.rejections.get? ref = m'.rejections.get? ref ∧
      (ref ∈ m.undeletable ↔ ref ∈ m'.undeletable)) := by
  constructor
  · intro ref
    rw [← answersOn_opsOn, (run_cell {} ref ops).1, (run_cell {} ref (opsOn ref ops)).1, opsOn_opsOn]
  · intro alike ref m m'
    obtain ⟨answers, after⟩ := run_cell {} ref ops
    obtain ⟨answers', after'⟩ := run_cell {} ref ops'
    rw [← alike ref] at answers' after'
    have same : m.cell ref = m'.cell ref := after.trans after'.symm
    have held : (m.resources.get? ref).map (fun stored => (stored.resource, stored.ready)) =
        (m'.resources.get? ref).map (fun stored => (stored.resource, stored.ready)) :=
      congrArg Cell.held same
    have stuck : m.undeletable.contains ref = m'.undeletable.contains ref :=
      congrArg Cell.stuck same
    have there : m.contains ref = m'.contains ref := by
      simpa [contains_eq] using congrArg Option.isSome held
    refine ⟨answers.trans answers'.symm, held, there, congrArg Cell.script same,
      congrArg Cell.rejection same, ?_⟩
    rw [← List.contains_iff_mem, ← List.contains_iff_mem, stuck]

/-- Two clusters created in either order, one of them at the second attempt. -/
theorem run_isolated_swapped :
    let a : Cluster := { name := "a", ns := "mq", replicas := 1 }
    let b : Cluster := { name := "b", ns := "mq", replicas := 1 }
    let first : List Op := [.create (.cluster a), .setReady a.ref 1, .get a.ref]
    let second : List Op :=
      [.rejectCreate b.ref "quota", .create (.cluster b), .create (.cluster b), .get b.ref]
    (∀ ref, opsOn ref (first ++ second) = opsOn ref (second ++ first)) ∧
      ∀ ref, answersOn ref {} (first ++ second) = answersOn ref {} (second ++ first) := by
  intro a b first second
  have alike : ∀ ref, opsOn ref (first ++ second) = opsOn ref (second ++ first) := by
    intro ref
    by_cases ofA : a.ref = ref
    · subst ofA
      decide
    · by_cases ofB : b.ref = ref
      · subst ofB
        decide
      · simp [opsOn, first, second, Op.ref, Resource.ref, ofA, ofB]
  exact ⟨alike, fun ref => ((run_isolated _ _).2 alike ref).1⟩

end BrokerRollout.MemoryStore
