import BrokerRollout.Proofs.StoreCells

/-!
# What reads of a cluster report

A store in memory has an outlook for each resource: the ready counts that the next reads report, one
after the other. A read that finds the resource moves on in it, and nothing else changes it but a new
script, a new count or a deletion. Main statement: `run_reports`.
-/

namespace BrokerRollout

theorem Resource.cluster_of_kind {r : Resource} (h : r.ref.kind = .cluster) : ∃ c, r = .cluster c := by
  cases r with
  | cluster c => exact ⟨c, rfl⟩
  | address | security => cases h

namespace MemoryStore

variable {m : MemoryStore} {op : Op} {ops : List Op} {ref : Ref} {done : List Deed} {i n : Nat}
  {found : Store.Observation}

/-! ### One resource -/

def Cell.ready (c : Cell) : Nat := (c.held.map Prod.snd).getD 0

/-- What is reported to read number `i` of those to come that find the resource. -/
def Cell.outlook (c : Cell) (i : Nat) : Nat := (c.script.bind (·.nth? i)).getD c.ready

/-- The operation, so answered, decides anew what is reported of its resource. -/
def Op.resets : Op → Answer → Bool
  | .scriptRollout _ _, _ | .setReady _ _, _ | .delete _, .written (.ok ()) => true
  | _, _ => false

theorem Cell.step_kept (c : Cell) (op : Op) (kept : op.resets (c.step op).1 = false)
    (unread : ∀ ref, op = .get ref → c.held = none) :
    (c.step op).2.script = c.script ∧ (c.step op).2.ready = c.ready := by
  cases op with
  | create r => rcases c with ⟨_ | _, _, _ | _, _⟩ <;> exact ⟨rfl, rfl⟩
  | get ref =>
    have absent := unread ref rfl
    rcases c with ⟨_ | _, _, _, _⟩
    · exact ⟨rfl, rfl⟩
    · cases absent
  | delete ref =>
    rcases c with ⟨_, _, _, _ | _⟩
    · cases kept
    · exact ⟨rfl, rfl⟩
  | setReady | scriptRollout => cases kept
  | contains | rejectCreate | failDeletes => exact ⟨rfl, rfl⟩

theorem Cell.step_held (c : Cell) (op : Op) (kept : op.resets (c.step op).1 = false)
    (there : c.held.isSome) : (c.step op).2.held.isSome := by
  cases op with
  | create r => rcases c with ⟨_ | _, _, _ | _, _⟩ <;> first | exact there | rfl
  | get ref =>
    rcases c with ⟨_ | _, _, _, _⟩
    · cases there
    · rfl
  | delete ref =>
    rcases c with ⟨_, _, _, _ | _⟩
    · cases kept
    · exact there
  | setReady | scriptRollout => cases kept
  | contains | rejectCreate | failDeletes => exact there

theorem Cell.outlook_get (c : Cell) (there : c.held.isSome) (i : Nat) :
    c.get.2.outlook i = c.outlook (i + 1) := by
  rcases c with ⟨_ | ⟨r, ready⟩, script, _, _⟩
  · cases there
  rcases script with _ | script
  · rfl
  by_cases some : script.items = []
  · obtain ⟨_⟩ := script
    subst some
    rfl
  · -- A script that is not empty has a count for every read.
    obtain ⟨count, reports⟩ := script.exists_nth? some (i + 1)
    have advanced := script.nth?_advance i
    simp [Cell.get, Cell.outlook, Cell.ready, advanced, reports]

theorem Cell.get_cluster {c : Cell} {spec : Cluster} {ready : Nat}
    (held : c.held = some (.cluster spec, ready)) :
    c.get.1.map Store.Observation.readyCount = some (c.outlook 0) := by
  simp [Cell.get, held, Cell.outlook, Cell.ready, Stored.observe, Store.Observation.readyCount,
    Cluster.workerNames, Script.nth?_zero]

/-! ### Reads in a history -/

theorem Op.resets_unversioned (op : Op) (answer : Answer) :
    op.resets answer.unversioned = op.resets answer := by
  cases op with
  | delete => cases answer <;> rfl
  | create | get | contains | setReady | scriptRollout | rejectCreate | failDeletes => rfl

def deed (m : MemoryStore) (op : Op) : Deed := ⟨m, op, (m.step op).1, (m.step op).2⟩

theorem deeds_cons (m : MemoryStore) (op : Op) (ops : List Op) :
    m.deeds (op :: ops) = m.deed op :: (m.step op).2.deeds ops := rfl

/-- The deed decides anew what is reported of the resource: it has set a script or a count, or it has
deleted the resource. -/
def Deed.resets (ref : Ref) (d : Deed) : Bool := d.op.ref = ref && d.op.resets d.answer

/-- What a read of the resource has found. -/
def Deed.found? (ref : Ref) (d : Deed) : Option Store.Observation :=
  match d.op, d.answer with
  | .get other, .read found => if other = ref then found else none
  | _, _ => none

theorem Deed.found?_eq_some (h : (m.deed op).found? ref = some found) :
    op = .get ref ∧ (m.get ref).1 = some found := by
  cases op with
  | get other =>
    obtain ⟨rfl, read⟩ := Option.ite_none_right_eq_some.1 h
    exact ⟨rfl, read⟩
  | create | delete | contains | setReady | scriptRollout | rejectCreate | failDeletes => cases h

theorem held_of_get_none (missed : (m.get ref).1 = none) : (m.cell ref).held = none := by
  cases held : m.resources.get? ref with
  | none => simp [cell, held]
  | some stored =>
    rw [get_of_some held] at missed
    cases missed

theorem cell_resets (kept : (m.deed op).resets op.ref = false) :
    op.resets ((m.cell op.ref).step op).1 = false := by
  rw [← (step_cell m op).1, Op.resets_unversioned]
  simpa [deed, Deed.resets] using kept

theorem cell_kept (kept : (m.deed op).resets ref = false) (unread : (m.deed op).found? ref = none) :
    ((m.step op).2.cell ref).script = (m.cell ref).script ∧
      ((m.step op).2.cell ref).ready = (m.cell ref).ready := by
  by_cases own : op.ref = ref
  · subst own
    have absent : ∀ ref, op = .get ref → (m.cell op.ref).held = none := by
      rintro ref rfl
      exact held_of_get_none (by simpa [deed, Deed.found?, step, Op.ref] using unread)
    rw [(step_cell m op).2]
    exact Cell.step_kept _ op (cell_resets kept) absent
  · rw [step_cell_other m own]
    exact ⟨rfl, rfl⟩

theorem get_outlook (ledger : Ledger done m) (cluster : ref.kind = .cluster)
    (read : (m.get ref).1 = some found) :
    found.readyCount = (m.cell ref).outlook 0 ∧
      ∀ i, ((m.get ref).2.cell ref).outlook i = (m.cell ref).outlook (i + 1) := by
  obtain ⟨answer, after⟩ := get_cell ref m
  cases held : m.resources.get? ref with
  | none =>
    rw [get_of_none held] at read
    cases read
  | some stored =>
    obtain ⟨spec, same⟩ := Resource.cluster_of_kind ((ledger.own held).symm ▸ cluster)
    have entry : (m.cell ref).held = some (.cluster spec, stored.ready) := by
      simp [cell, held, same]
    have reported := Cell.get_cluster entry
    rw [← answer, read] at reported
    refine ⟨Option.some.inj reported, fun i => ?_⟩
    rw [after, Cell.outlook_get _ (by simp [entry])]

/-- No deed decides anew what is reported of the resource. -/
def Undisturbed (ref : Ref) (deeds : List Deed) : Prop := ∀ d ∈ deeds, d.resets ref = false

instance (ref : Ref) (deeds : List Deed) : Decidable (Undisturbed ref deeds) :=
  inferInstanceAs (Decidable (∀ d ∈ deeds, d.resets ref = false))

/-- The reads that find a cluster report what its outlook was. -/
theorem found_outlook (ledger : Ledger done m) (cluster : ref.kind = .cluster)
    (undisturbed : Undisturbed ref (m.deeds ops))
    (read : ((m.deeds ops).filterMap (Deed.found? ref))[i]? = some found) :
    found.readyCount = (m.cell ref).outlook i := by
  induction ops generalizing done m i with
  | nil => cases read
  | cons op ops ih =>
    obtain ⟨here, later⟩ := List.forall_mem_cons.1 undisturbed
    have next := ledger.step (step_steps m op)
    -- A read that finds the cluster takes the head of the outlook; anything else leaves it as it is.
    cases first : (m.deed op).found? ref with
    | none =>
      rw [deeds_cons, List.filterMap_cons_none first] at read
      obtain ⟨script, ready⟩ := cell_kept here first
      rw [ih next later read, Cell.outlook, Cell.outlook, script, ready]
    | some seen =>
      rw [deeds_cons, List.filterMap_cons_some first] at read
      obtain ⟨rfl, shown⟩ := Deed.found?_eq_some first
      obtain ⟨now, after⟩ := get_outlook ledger cluster shown
      cases i with
      | zero =>
        obtain rfl := Option.some.inj read
        exact now
      | succ i => exact (ih next later read).trans (after i)

theorem step_held (there : (m.cell ref).held.isSome) (kept : (m.deed op).resets ref = false) :
    ((m.step op).2.cell ref).held.isSome := by
  by_cases own : op.ref = ref
  · subst own
    rw [(step_cell m op).2]
    exact Cell.step_held _ op (cell_resets kept) there
  · rwa [step_cell_other m own]

theorem get_isSome (m : MemoryStore) (ref : Ref) : (m.get ref).1.isSome = m.contains ref := by
  cases held : m.resources.get? ref with
  | none =>
    rw [get_of_none held, contains_eq, held]
    rfl
  | some stored =>
    rw [get_of_some held, contains_eq, held]
    rfl

theorem cell_held (m : MemoryStore) (ref : Ref) : (m.cell ref).held.isSome = m.contains ref := by
  simp [cell, contains_eq]

/-- A resource that is stored stays so, and every read finds it. -/
theorem found_of_held (there : (m.cell ref).held.isSome) (undisturbed : Undisturbed ref (m.deeds ops))
    {d : Deed} (member : d ∈ m.deeds ops) (asked : d.op = .get ref) :
    ∃ found, d.answer = .read (some found) := by
  induction ops generalizing m with
  | nil => cases member
  | cons op ops ih =>
    obtain ⟨here, later⟩ := List.forall_mem_cons.1 undisturbed
    obtain rfl | member := List.mem_cons.1 member
    · obtain rfl : op = .get ref := asked
      rw [cell_held, ← get_isSome] at there
      obtain ⟨found, shown⟩ := Option.isSome_iff_exists.1 there
      exact ⟨found, congrArg Answer.read shown⟩
    · exact ih (step_held there here) later member

/-! ### What the reads report -/

def readyOf (m : MemoryStore) (ref : Ref) : Nat := ((m.resources.get? ref).map Stored.ready).getD 0

theorem cell_ready (m : MemoryStore) (ref : Ref) : (m.cell ref).ready = m.readyOf ref := by
  simp [Cell.ready, cell, readyOf, Function.comp_def]

theorem scriptRollout_cell (m : MemoryStore) (ref : Ref) (counts : List Nat) :
    (m.scriptRollout ref counts).cell ref = { m.cell ref with script := some ⟨counts⟩ } :=
  (step_cell m (.scriptRollout ref counts)).2

theorem outlook_scriptRollout (m : MemoryStore) (ref : Ref) (counts : List Nat) (i : Nat) :
    ((m.scriptRollout ref counts).cell ref).outlook i =
      (counts[min i (counts.length - 1)]?).getD (m.readyOf ref) := by
  rw [← cell_ready, scriptRollout_cell]
  rfl

theorem setReady_cell (m : MemoryStore) (ref : Ref) (n : Nat) :
    (m.setReady ref n).cell ref =
      { m.cell ref with held := (m.cell ref).held.map fun (r, _) => (r, n), script := none } :=
  (step_cell m (.setReady ref n)).2

theorem outlook_setReady (there : (m.cell ref).held.isSome) (n i : Nat) :
    ((m.setReady ref n).cell ref).outlook i = n := by
  obtain ⟨entry, held⟩ := Option.isSome_iff_exists.1 there
  simp [setReady_cell, Cell.outlook, Cell.ready, held]

theorem delete_cell_of_ok (deleted : (m.delete ref).1 = .ok ()) :
    (m.delete ref).2.cell ref = { m.cell ref with held := none, script := none } := by
  obtain ⟨answer, after⟩ := delete_cell ref m
  rw [deleted, Cell.delete] at answer
  rw [after, Cell.delete]
  by_cases stuck : (m.cell ref).stuck
  · rw [if_pos stuck] at answer
    cases answer
  · rw [if_neg stuck]

/-- What the reads of a cluster report from a state of the store on. -/
structure Reports (m : MemoryStore) (ref : Ref) : Prop where
  finds : (m.get ref).1.isSome = m.contains ref
  /-- The counts of a script go to the reads that find the cluster, one after the other, and the
  last one to all that follow. -/
  scripted : ∀ counts ops, Undisturbed ref ((m.scriptRollout ref counts).deeds ops) → ∀ i found,
    (((m.scriptRollout ref counts).deeds ops).filterMap (Deed.found? ref))[i]? = some found →
    found.readyCount = (counts[min i (counts.length - 1)]?).getD (m.readyOf ref)
  set : m.contains ref → ∀ n ops, Undisturbed ref ((m.setReady ref n).deeds ops) →
    ∀ d ∈ (m.setReady ref n).deeds ops, d.op = .get ref →
    ∃ found, d.answer = .read (some found) ∧ found.readyCount = n
  deleted : (m.delete ref).1 = .ok () → (m.delete ref).2.rollouts.get? ref = none ∧
    ∀ ops, Undisturbed ref ((m.delete ref).2.deeds ops) →
    ∀ found ∈ ((m.delete ref).2.deeds ops).filterMap (Deed.found? ref), found.readyCount = 0
  kept : ∀ op, (m.deed op).resets ref = false → (m.deed op).found? ref = none →
    (m.step op).2.rollouts.get? ref = m.rollouts.get? ref ∧ (m.step op).2.readyOf ref = m.readyOf ref

/-- In every state that a history leads to from a new store, a script, a count or a deletion decides
what the reads of a cluster report until the next of them. -/
theorem run_reports (ops : List Op) (c : Cluster) : Reports (run {} ops).2 c.ref where
  finds := get_isSome _ _
  scripted counts later undisturbed i found read := by
    have ledger := (Ledger.empty.run ops).step (step_steps _ (.scriptRollout c.ref counts))
    rw [← outlook_scriptRollout]
    exact found_outlook ledger rfl undisturbed read
  set there n later undisturbed d member asked := by
    have ledger := (Ledger.empty.run ops).step (step_steps _ (.setReady c.ref n))
    have held : ((run {} ops).2.cell c.ref).held.isSome := (cell_held _ _).trans there
    have stays : (((run {} ops).2.setReady c.ref n).cell c.ref).held.isSome := by
      simpa [setReady_cell] using held
    obtain ⟨found, shown⟩ := found_of_held stays undisturbed member asked
    have listed : found ∈ (deeds _ later).filterMap (Deed.found? c.ref) :=
      List.mem_filterMap.2 ⟨d, member, by simp [Deed.found?, asked, shown]⟩
    obtain ⟨i, read⟩ := List.mem_iff_getElem?.1 listed
    refine ⟨found, shown, ?_⟩
    rw [← outlook_setReady held n i]
    exact found_outlook ledger rfl undisturbed read
  deleted ok := by
    have ledger := (Ledger.empty.run ops).step (step_steps _ (.delete c.ref))
    have gone := delete_cell_of_ok ok
    refine ⟨congrArg Cell.script gone, fun later undisturbed found member => ?_⟩
    obtain ⟨i, read⟩ := List.mem_iff_getElem?.1 member
    rw [found_outlook ledger rfl undisturbed read]
    exact (congrArg (Cell.outlook · i) gone).trans rfl
  kept op unreset unread := by
    obtain ⟨script, ready⟩ := cell_kept unreset unread
    rw [cell_ready, cell_ready] at ready
    exact ⟨script, ready⟩

/-- A script that is set before the cluster exists outlasts a failed creation and a failed deletion. -/
theorem run_reports_armed :
    let c : Cluster := { name := "broker", ns := "mq", replicas := 3 }
    let later : List Op := [.get c.ref, .rejectCreate c.ref "quota", .create (.cluster c),
      .create (.cluster c), .get c.ref, .failDeletes c.ref, .delete c.ref, .get c.ref, .get c.ref]
    let done := (scriptRollout c.ref [1, 3] {}).deeds later
    Undisturbed c.ref done ∧ ∃ found, (done.filterMap (Deed.found? c.ref))[2]? = some found ∧
      found.readyCount = 3 := by
  intro c later done
  have undisturbed : Undisturbed c.ref done := by decide
  obtain ⟨found, third⟩ : ∃ found, (done.filterMap (Deed.found? c.ref))[2]? = some found :=
    ⟨⟨c.ref, ["broker-ss-0", "broker-ss-1", "broker-ss-2"], some "1"⟩, by decide⟩
  exact ⟨undisturbed, found, third,
    (run_reports [] c).scripted [1, 3] later undisturbed 2 found third⟩

end MemoryStore

end BrokerRollout
