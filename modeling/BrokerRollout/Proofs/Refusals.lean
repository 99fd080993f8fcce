import BrokerRollout.Proofs.StoreCells

/-!
# What a store in memory refuses

A creation is rejected if that was asked for since the resource was last created, and otherwise
refused if the resource is stored. A deletion fails if it was ever asked that it should. What is
refused changes nothing, but for the rejection that it uses up. Main statement: `run_refusals`.
-/

namespace BrokerRollout.MemoryStore

variable {m m' : MemoryStore} {op : Op} {ops : List Op} {answer : Answer} {ref : Ref} {r : Resource}
  {reason : String}

/-! ### Rejections to come -/

/-- What an operation leaves of the rejection of a resource, if it has to do with it. -/
def Op.rejection? (ref : Ref) : Op → Option (Option String)
  | .rejectCreate other reason => if other = ref then some (some reason) else none
  | .create r => if r.ref = ref then some none else none
  | _ => none

/-- The reason last given for rejecting a resource, unless a creation has used it up since. -/
def armed? (ref : Ref) (ops : List Op) : Option String :=
  (ops.filterMap (Op.rejection? ref)).getLast?.join

theorem Cell.create_rejection (c : Cell) (r : Resource) : (c.create r).2.rejection = none := by
  rcases c with ⟨_ | _, _, _ | _, _⟩ <;> rfl

theorem Cell.step_rejection (c : Cell) (op : Op) :
    (c.step op).2.rejection = (op.rejection? op.ref).getD c.rejection := by
  cases op with
  | create r =>
    rw [show (c.step (.create r)).2 = (c.create r).2 from rfl, c.create_rejection]
    simp [Op.rejection?, Op.ref]
  | get => rcases c with ⟨_ | _, _, _, _⟩ <;> rfl
  | delete => rcases c with ⟨_, _, _, _ | _⟩ <;> rfl
  | rejectCreate => simp [Cell.step, Op.rejection?, Op.ref]
  | contains | setReady | scriptRollout | failDeletes => rfl

theorem Op.rejection?_other (apart : op.ref ≠ ref) : op.rejection? ref = none := by
  cases op with
  | create | rejectCreate => exact if_neg apart
  | get | delete | contains | setReady | scriptRollout | failDeletes => rfl

theorem step_rejections (m : MemoryStore) (op : Op) (ref : Ref) :
    (m.step op).2.rejections.get? ref = (op.rejection? ref).getD (m.rejections.get? ref) := by
  by_cases own : op.ref = ref
  · subst own
    have after := congrArg Cell.rejection (step_cell m op).2
    rw [Cell.step_rejection] at after
    exact after
  · rw [Op.rejection?_other own]
    exact congrArg Cell.rejection (step_cell_other m own)

theorem run_rejections (m : MemoryStore) (ops : List Op) (ref : Ref) :
    (m.run ops).2.rejections.get? ref =
      (ops.filterMap (Op.rejection? ref)).getLast?.getD (m.rejections.get? ref) := by
  induction ops generalizing m with
  | nil => rfl
  | cons op ops ih =>
    rw [run_cons, ih, step_rejections]
    cases leaves : op.rejection? ref with
    | none =>
      rw [List.filterMap_cons_none leaves]
      rfl
    | some rejection =>
      rw [List.filterMap_cons_some leaves, List.getLast?_cons]
      rfl

theorem run_armed (ops : List Op) (ref : Ref) :
    (run {} ops).2.rejections.get? ref = armed? ref ops := by
  rw [run_rejections, armed?]
  cases (ops.filterMap (Op.rejection? ref)).getLast? <;> rfl

/-- A rejection that was asked for is still to come while the resource is not created. -/
theorem run_rejections_of_mem (asked : .rejectCreate ref reason ∈ ops)
    (uncreated : ∀ r : Resource, .create r ∈ ops → r.ref ≠ ref) :
    ∃ last, (m.run ops).2.rejections.get? ref = some last := by
  have listed : some reason ∈ ops.filterMap (Op.rejection? ref) :=
    List.mem_filterMap.2 ⟨_, asked, if_pos rfl⟩
  obtain ⟨final, last⟩ : ∃ final, (ops.filterMap (Op.rejection? ref)).getLast? = some final :=
    Option.ne_none_iff_exists'.1 fun none =>
      List.ne_nil_of_mem listed (List.getLast?_eq_none_iff.1 none)
  obtain ⟨op, member, leaves⟩ := List.mem_filterMap.1 (List.mem_of_getLast? last)
  rw [run_rejections, last, Option.getD_some]
  -- The last operation to do with it asked for a rejection: a creation would have used it up.
  cases op with
  | create r =>
    simp only [Op.rejection?, if_neg (uncreated r member)] at leaves
    cases leaves
  | rejectCreate other reason =>
    simp only [Op.rejection?, Option.ite_none_right_eq_some, Option.some.injEq] at leaves
    exact ⟨reason, leaves.2.symm⟩
  | get | delete | contains | setReady | scriptRollout | failDeletes => cases leaves

/-! ### Creations -/

theorem create_answer (m : MemoryStore) (r : Resource) :
    (m.create r).1 = match m.rejections.get? r.ref with
      | some reason => .error (.rejected r.ref reason)
      | none => if m.contains r.ref then .error (.alreadyExists r.ref) else .ok () := by
  cases armed : m.rejections.get? r.ref with
  | some reason => rw [create_of_armed armed]
  | none =>
    cases there : m.contains r.ref with
    | true =>
      rw [create_of_contains armed there]
      rfl
    | false =>
      rw [create_of_free armed there]
      rfl

theorem create_collided (h : (m.create r).1 = .error (.alreadyExists ref)) : (m.create r).2 = m := by
  have answers := create_answers r m
  rw [h] at answers
  generalize (m.create r).2 = m' at answers ⊢
  cases answers
  rfl

theorem create_rejected (h : (m.create r).1 = .error (.rejected ref reason)) :
    (m.create r).2 = { m with rejections := m.rejections.erase r.ref } := by
  have answers := create_answers r m
  rw [h] at answers
  generalize (m.create r).2 = m' at answers ⊢
  cases answers
  rfl

def Deed.rejected? (d : Deed) : Option Ref :=
  match d.op, d.answer with
  | .create r, .written (.error (.rejected _ _)) => some r.ref
  | _, _ => none

def Op.rejects? : Op → Option Ref
  | .rejectCreate ref _ => some ref
  | _ => none

/-- How many creations of a resource are still to be rejected. -/
def pending (m : MemoryStore) (ref : Ref) : Nat := if (m.rejections.get? ref).isSome then 1 else 0

theorem count_filterMap_cons {α β : Type} [DecidableEq β] (f : α → Option β) (a : α) (l : List α)
    (b : β) : ((a :: l).filterMap f).count b =
      (if f a = some b then 1 else 0) + (l.filterMap f).count b := by
  cases found : f a with
  | none => simp [found]
  | some c => simp [found, List.count_cons, Nat.add_comm]

/-- Each rejection that is met, or still to come, was asked for. -/
theorem Steps.rejected (h : Steps m op answer m') (ref : Ref) :
    (if Deed.rejected? ⟨m, op, answer, m'⟩ = some ref then 1 else 0) + m'.pending ref ≤
      (if op.rejects? = some ref then 1 else 0) + m.pending ref := by
  cases h with
  | @create _ r _ answers =>
    cases answers with
    | created | collided => exact Nat.le_refl _
    | rejected armed =>
      by_cases own : r.ref = ref
      · subst own
        simp [Deed.rejected?, Op.rejects?, pending, Table.get?_erase, armed]
      · simp [Deed.rejected?, Op.rejects?, pending, Table.get?_erase, own, Ne.symm own]
  | get answers => cases answers <;> exact Nat.le_refl _
  | delete answers => cases answers <;> exact Nat.le_refl _
  | @rejectCreate other reason =>
    by_cases own : other = ref
    · subst own
      simp [Deed.rejected?, Op.rejects?, pending, MemoryStore.rejectCreate, Table.get?_insert]
    · simp [Deed.rejected?, Op.rejects?, pending, MemoryStore.rejectCreate, Table.get?_insert, own,
        Ne.symm own]
  | contains | setReady | scriptRollout | failDeletes => exact Nat.le_refl _

theorem count_rejected_le (m : MemoryStore) (ops : List Op) (ref : Ref) :
    ((m.deeds ops).filterMap Deed.rejected?).count ref ≤
      (ops.filterMap Op.rejects?).count ref + m.pending ref := by
  induction ops generalizing m with
  | nil => exact Nat.zero_le _
  | cons op ops ih =>
    have here := (step_steps m op).rejected ref
    have later := ih (m.step op).2
    rw [deeds, count_filterMap_cons, count_filterMap_cons]
    omega

/-- Of the creations to come the first one is rejected, and no other is. -/
theorem count_rejected_armed {rest : List Op} (armed : m.rejections.get? r.ref = some reason)
    (unasked : r.ref ∉ rest.filterMap Op.rejects?) :
    ((m.deeds (.create r :: rest)).filterMap Deed.rejected?).count r.ref = 1 := by
  have here : m.step (.create r) = (.written (.error (.rejected r.ref reason)),
      { m with rejections := m.rejections.erase r.ref }) := by
    rw [step, create_of_armed armed]
  have spent : (m.step (.create r)).2.pending r.ref = 0 := by
    simp [here, pending, Table.get?_erase]
  have later := count_rejected_le (m.step (.create r)).2 rest r.ref
  rw [List.count_eq_zero.2 unasked, spent] at later
  rw [deeds, count_filterMap_cons, Nat.le_zero.1 later, here]
  simp [Deed.rejected?]

/-! ### Deletions -/

theorem delete_of_stuck (stuck : ref ∈ m.undeletable) :
    m.delete ref = (.error (.backend ("simulated delete failure for " ++ ref.text)), m) := by
  simp [delete, stuck]

theorem delete_of_free (deletable : ref ∉ m.undeletable) :
    m.delete ref = (.ok (), m.without ref) := by
  simp [delete, deletable, without]

theorem delete_error_iff : (∃ e, (m.delete ref).1 = .error e) ↔ ref ∈ m.undeletable := by
  by_cases stuck : ref ∈ m.undeletable
  · simp [delete_of_stuck stuck, stuck]
  · simp [delete_of_free stuck, stuck]

theorem without_without (m : MemoryStore) (ref : Ref) :
    (m.without ref).without ref = m.without ref := by
  have unchanged : (m.without ref).mutations + (if (m.without ref).contains ref then 1 else 0) =
      (m.without ref).mutations := by
    rw [contains_without]
    rfl
  rw [without, unchanged]
  simp only [without, Table.erase_erase]

theorem delete_delete (m : MemoryStore) (ref : Ref) :
    (m.delete ref).2.delete ref = m.delete ref := by
  by_cases stuck : ref ∈ m.undeletable
  · simp only [delete_of_stuck stuck]
  · rw [delete_of_free stuck, delete_of_free (m := m.without ref) stuck, without_without]

theorem step_undeletable (m : MemoryStore) (op : Op) (ref : Ref) :
    ref ∈ (m.step op).2.undeletable ↔ op = .failDeletes ref ∨ ref ∈ m.undeletable := by
  have h := step_steps m op
  generalize (m.step op).1 = answer, (m.step op).2 = m' at h
  cases h with
  | create answers | get answers | delete answers => simp [answers.undeletable]
  | contains | setReady | scriptRollout | rejectCreate =>
    simp [MemoryStore.setReady, MemoryStore.scriptRollout, MemoryStore.rejectCreate]
  | @failDeletes failed =>
    rw [← List.contains_iff_mem, contains_failDeletes, Bool.or_eq_true, decide_eq_true_iff,
      List.contains_iff_mem, Op.failDeletes.injEq, eq_comm]

theorem run_undeletable (m : MemoryStore) (ops : List Op) (ref : Ref) :
    ref ∈ (m.run ops).2.undeletable ↔ .failDeletes ref ∈ ops ∨ ref ∈ m.undeletable := by
  induction ops generalizing m with
  | nil => simp [run]
  | cons op ops ih =>
    rw [run_cons, ih, step_undeletable, List.mem_cons, eq_comm (a := op), or_left_comm, or_assoc]

/-! ### Histories -/

/-- What the store refuses that a history has led to, and what becomes of it. -/
structure Refusals (ops : List Op) (m : MemoryStore) : Prop where
  armed : ∀ ref, m.rejections.get? ref = armed? ref ops
  creation : ∀ r, (m.create r).1 = match armed? r.ref ops with
    | some reason => .error (.rejected r.ref reason)
    | none => if m.contains r.ref then .error (.alreadyExists r.ref) else .ok ()
  collided : ∀ r ref, (m.create r).1 = .error (.alreadyExists ref) → (m.create r).2 = m
  rejected : ∀ r ref reason, (m.create r).1 = .error (.rejected ref reason) →
    (m.create r).2 = { m with rejections := m.rejections.erase r.ref }
  asked : ∀ ref, ((deeds {} ops).filterMap Deed.rejected?).count ref ≤
    (ops.filterMap Op.rejects?).count ref
  /-- Rejections asked for one after the other, with no creation in between, reject one creation. -/
  once : ∀ (burst rest : List Op) (r : Resource) (reason : String),
    .rejectCreate r.ref reason ∈ burst → (∀ q : Resource, .create q ∈ burst → q.ref ≠ r.ref) →
    r.ref ∉ rest.filterMap Op.rejects? →
    (((m.run burst).2.deeds (.create r :: rest)).filterMap Deed.rejected?).count r.ref = 1
  deletion : ∀ ref, (∃ e, (m.delete ref).1 = .error e) ↔ .failDeletes ref ∈ ops
  undeleted : ∀ ref e, (m.delete ref).1 = .error e → (m.delete ref).2 = m
  repeated : ∀ ref, (m.delete ref).2.delete ref = m.delete ref

/-- In every state that a history leads to from a new store, what is refused is what the history
asked for or what is stored already, and it leaves the state as it was. -/
theorem run_refusals (ops : List Op) : Refusals ops (run {} ops).2 where
  armed := run_armed ops
  creation r := by rw [create_answer, run_armed]
  collided _ _ := create_collided
  rejected _ _ _ := create_rejected
  asked ref := count_rejected_le {} ops ref
  once burst rest r reason asked uncreated unasked := by
    obtain ⟨last, armed⟩ := run_rejections_of_mem (m := (run {} ops).2) asked uncreated
    exact count_rejected_armed armed unasked
  deletion ref := by
    rw [delete_error_iff, run_undeletable]
    simp
  undeleted ref e failed := by rw [delete_of_stuck (delete_error_iff.1 ⟨e, failed⟩)]
  repeated ref := delete_delete _ ref

/-- Two rejections are asked for, and one of three creations is rejected. -/
theorem run_refusals_burst :
    let c : Cluster := { name := "broker", ns := "mq", replicas := 3 }
    let burst : List Op := [.rejectCreate c.ref "quota", .rejectCreate c.ref "policy"]
    let rest : List Op := [.create (.cluster c), .create (.cluster c)]
    c.ref ∉ rest.filterMap Op.rejects? ∧
      (((run {} burst).2.deeds (.create (.cluster c) :: rest)).filterMap Deed.rejected?).count
        c.ref = 1 := by
  intro c burst rest
  have unasked : c.ref ∉ rest.filterMap Op.rejects? := by decide
  refine ⟨unasked, (run_refusals []).once burst rest (.cluster c) "quota" (by decide) ?_ unasked⟩
  intro q member
  simp [burst] at member

end BrokerRollout.MemoryStore
