import BrokerRollout.Proofs.CleanUp
import BrokerRollout.Proofs.MemoryCalls
import Mathlib.Algebra.GroupWithZero.Nat

/-!
# What a run leaves in a store in memory

A run reads and deletes only what it has created, and so it leaves all that was stored before as it
was. What else is stored afterwards is what it failed to delete. Its reads are the attempts of the
polls that look at resources, poll by poll (`Sampled`). Main statement: `run_netEffect`.
-/

namespace BrokerRollout.Scenario

variable {τ : Type} {t : Timing} {s : Settings} {p : Plan} {planned taken : List Step}
  {outcome : Except Failure Unit} {calls driven cleaned : List Call} {report : Report}

/-! ### Reads -/

/-- The resource that a step waits for. -/
def Step.awaited? : Step → Option Ref
  | .awaitReady ref _ | .awaitPersisted ref => some ref
  | _ => none

/-- How many attempts a failed wait for a resource has made. -/
def Failure.attempts? : Failure → Option Nat
  | .notPersisted _ exhausted | .convergenceTimeout _ _ exhausted => some exhausted.attempts
  | _ => none

/-- The reads of polls that wait for these resources, one after the other: one for each attempt. A
poll that failed is the last of them, and `failed` is what it says of its attempts. -/
structure Sampled (awaited : List Ref) (failed : Option Nat) (reads : List Ref)
    (attempts : List Nat) : Prop where
  polls : attempts.length ≤ awaited.length
  some : ∀ n ∈ attempts, 1 ≤ n
  reads : reads = (awaited.zip attempts).flatMap fun x => List.replicate x.2 x.1
  last : ∀ n ∈ failed, attempts.getLast? = Option.some n

namespace Sampled

variable {awaited reads : List Ref} {failed : Option Nat} {attempts : List Nat} {ref : Ref} {n : Nat}

theorem nil (awaited : List Ref) : Sampled awaited none [] [] where
  polls := Nat.zero_le _
  some := by simp
  reads := by simp
  last := by simp

theorem final (awaited : List Ref) (ref : Ref) (positive : 1 ≤ n) (counted : ∀ k ∈ failed, k = n) :
    Sampled (ref :: awaited) failed (List.replicate n ref) [n] where
  polls := Nat.succ_le_succ (Nat.zero_le _)
  some := by simpa using positive
  reads := by simp
  last := fun k member => congrArg _ (counted k member).symm

theorem cons (h : Sampled awaited failed reads attempts) (ref : Ref) (positive : 1 ≤ n) :
    Sampled (ref :: awaited) failed (List.replicate n ref ++ reads) (n :: attempts) where
  polls := Nat.succ_le_succ h.polls
  some := List.forall_mem_cons.2 ⟨positive, h.some⟩
  reads := by rw [h.reads, List.zip_cons_cons, List.flatMap_cons]
  last := by
    intro k member
    rw [List.getLast?_cons, h.last k member]
    rfl

theorem total (h : Sampled awaited failed reads attempts) : reads.length = attempts.sum := by
  have counts : (awaited.zip attempts).map Prod.snd = attempts := List.map_snd_zip h.polls
  rw [h.reads, List.length_flatMap]
  simp only [List.length_replicate]
  exact congrArg List.sum counts

end Sampled

theorem Step.Does.reads_none {step : Step} (h : step.Does t outcome calls)
    (patient : step.awaited? = none) :
    calls.filterMap readBy = [] ∧ (failure? outcome).bind Failure.attempts? = none := by
  cases h with
  | created | refused | entered => exact ⟨rfl, rfl⟩
  | checked | unchecked => exact ⟨filterMap_map_none (fun _ => rfl) _, rfl⟩
  | ready | unready | persisted | unpersisted => cases patient

/-- The reads of a poll that failed are as many as it says. -/
theorem Step.Does.reads_some {step : Step} {ref : Ref} (h : step.Does t outcome calls)
    (waits : step.awaited? = some ref) :
    1 ≤ calls.length ∧ calls.filterMap readBy = List.replicate calls.length ref ∧
      ∀ n ∈ (failure? outcome).bind Failure.attempts?, n = calls.length := by
  have reads (ref : Ref) (answers : List ReadAnswer) : (answers.map (Call.get ref)).filterMap readBy =
      List.replicate (answers.map (Call.get ref)).length ref := by
    rw [filterMap_map_some (g := readBy) (h := fun _ => ref) fun _ => rfl, List.length_map]
    exact List.map_const'
  cases h with
  | ready ends | persisted ends =>
    cases waits
    have positive := ends.length_pos
    rw [reads, List.length_map]
    exact ⟨positive, rfl, nofun⟩
  | unready ends | unpersisted ends =>
    cases waits
    have positive := ends.length_pos
    have counted := ends.attempts_eq
    rw [reads, List.length_map]
    exact ⟨positive, rfl, by rintro _ ⟨⟩; exact counted⟩
  | created | refused | entered | checked | unchecked => cases waits

/-- The steps wait only for resources that are among `owned` or submitted by a step before. -/
def WaitsForOwn : List Ref → List Step → Prop
  | _, [] => True
  | owned, step :: rest =>
    (∀ ref ∈ step.awaited?, ref ∈ owned) ∧ WaitsForOwn (owned ++ step.ref?.toList) rest

theorem waitsForOwn_append {owned : List Ref} {first second : List Step} :
    WaitsForOwn owned (first ++ second) ↔
      WaitsForOwn owned first ∧ WaitsForOwn (owned ++ first.filterMap Step.ref?) second := by
  induction first generalizing owned with
  | nil => simp [WaitsForOwn]
  | cons step first ih =>
    rw [List.cons_append, WaitsForOwn, WaitsForOwn, ih, and_assoc]
    cases ref : step.ref? <;> simp [ref]

theorem waitsForOwn_of_owned {owned : List Ref} {steps : List Step}
    (waits : ∀ step ∈ steps, ∀ ref ∈ step.awaited?, ref ∈ owned) : WaitsForOwn owned steps := by
  induction steps generalizing owned with
  | nil => trivial
  | cons step rest ih =>
    obtain ⟨first, rest⟩ := List.forall_mem_cons.1 waits
    exact ⟨first, ih fun later member ref waited =>
      List.mem_append_left _ (rest later member ref waited)⟩

theorem waitsForOwn_addresses (owned : List Ref) (addresses : List Address) :
    WaitsForOwn owned
      (addresses.flatMap fun a => [.submit (.address a), .awaitPersisted a.ref]) := by
  induction addresses generalizing owned with
  | nil => trivial
  | cons a rest ih =>
    refine ⟨nofun, ?_, ih _⟩
    rintro _ ⟨⟩
    exact List.mem_append_right _ List.mem_cons_self

theorem dependents_waitForOwn (p : Plan) (owned : List Ref) : WaitsForOwn owned (dependents p) := by
  refine waitsForOwn_append.2 ⟨waitsForOwn_of_owned ?_, waitsForOwn_addresses _ _⟩
  intro step member
  obtain ⟨_, -, rfl⟩ := List.mem_map.1 member
  exact nofun

theorem steps_waitForOwn (p : Plan) (s : Settings) : WaitsForOwn [] (steps p s) := by
  -- All other waits are for the cluster, which comes first.
  have cluster {owned : List Ref} {steps : List Step} (owns : p.cluster.ref ∈ owned)
      (waits : ∀ step ∈ steps, ∀ ref ∈ step.awaited?, ref = p.cluster.ref) :
      WaitsForOwn owned steps :=
    waitsForOwn_of_owned fun step member ref waited => waits step member ref waited ▸ owns
  have early : ∀ step ∈ (if s.verifiesLiveState && s.waitBeforeDependents then [awaitWorkers p]
      else []), ∀ ref ∈ step.awaited?, ref = p.cluster.ref := by
    intro step member ref waited
    split at member
    · rw [List.mem_singleton.1 member] at waited
      cases waited
      rfl
    · cases member
  have late : ∀ step ∈ Step.enter .submitted :: (if s.verifiesLiveState then verification p else []),
      ∀ ref ∈ step.awaited?, ref = p.cluster.ref := by
    intro step member ref waited
    rcases List.mem_cons.1 member with rfl | member
    · cases waited
    split at member
    · rcases mem_verification member with rfl | ⟨_, rfl⟩ | ⟨_, -, rfl⟩ <;> cases waited
      rfl
    · cases member
  have submits : ∀ ref ∈ (Step.submit (.cluster p.cluster)).awaited?, ref ∈ ([] : List Ref) := by
    intro ref waited
    cases waited
  rw [steps_eq, submissionSteps, List.cons_append, List.append_assoc]
  refine ⟨submits, waitsForOwn_append.2 ⟨cluster List.mem_cons_self early, waitsForOwn_append.2
    ⟨dependents_waitForOwn p _, cluster ?_ late⟩⟩⟩
  simp [Step.ref?, Resource.ref]

theorem Course.reads_own {owned : List Ref} (h : Course t planned taken outcome calls)
    (own : WaitsForOwn owned planned) :
    ∀ ref ∈ calls.filterMap readBy, ref ∈ owned ++ taken.filterMap Step.ref? := by
  have here {step : Step} {outcome : Except Failure Unit} {calls : List Call} {owned : List Ref}
      (h : step.Does t outcome calls) (own : ∀ ref ∈ step.awaited?, ref ∈ owned) :
      ∀ ref ∈ calls.filterMap readBy, ref ∈ owned := by
    intro ref read
    cases waits : step.awaited? with
    | none =>
      rw [(h.reads_none waits).1] at read
      cases read
    | some awaited =>
      rw [(h.reads_some waits).2.1] at read
      rw [List.eq_of_mem_replicate read]
      exact own awaited waits
  induction h generalizing owned with
  | arrived => nofun
  | @passed step rest taken outcome calls more does _ ih =>
    intro ref read
    rw [List.filterMap_append] at read
    rcases List.mem_append.1 read with read | read
    · exact List.mem_append_left _ (here does own.1 ref read)
    · have mine := ih own.2 ref read
      cases made : step.ref? <;> simpa [made] using mine
  | stopped does =>
    intro ref read
    exact List.mem_append_left _ (here does own.1 ref read)

theorem Course.sampled (h : Course t planned taken outcome calls) :
    ∃ attempts, Sampled (planned.filterMap Step.awaited?)
      ((failure? outcome).bind Failure.attempts?) (calls.filterMap readBy) attempts := by
  induction h with
  | arrived => exact ⟨[], .nil _⟩
  | @passed step rest taken outcome calls more here later ih =>
    obtain ⟨attempts, sampled⟩ := ih
    rw [List.filterMap_append]
    cases waits : step.awaited? with
    | none =>
      rw [List.filterMap_cons_none waits, (here.reads_none waits).1]
      exact ⟨attempts, sampled⟩
    | some ref =>
      obtain ⟨positive, reads, -⟩ := here.reads_some waits
      rw [List.filterMap_cons_some waits, reads]
      exact ⟨calls.length :: attempts, sampled.cons ref positive⟩
  | @stopped step rest failure calls here =>
    cases waits : step.awaited? with
    | none =>
      obtain ⟨reads, uncounted⟩ := here.reads_none waits
      rw [List.filterMap_cons_none waits, reads, uncounted]
      exact ⟨[], .nil _⟩
    | some ref =>
      obtain ⟨positive, reads, counted⟩ := here.reads_some waits
      rw [List.filterMap_cons_some waits, reads]
      exact ⟨[calls.length], .final _ ref positive counted⟩

/-! ### Rejections -/

/-- The resource whose creation was rejected. -/
def Failure.rejected? : Failure → Option Ref
  | .submission _ (.rejected ref _) => some ref
  | _ => none

theorem Step.Does.rejects {step : Step} (h : step.Does t outcome calls) :
    calls.filterMap rejectedBy = ((failure? outcome).bind Failure.rejected?).toList := by
  cases h with
  | created | entered => rfl
  | refused r e => cases e <;> rfl
  | ready | unready | persisted | unpersisted | checked | unchecked =>
    exact filterMap_map_none (fun _ => rfl) _

theorem Course.rejects (h : Course t planned taken outcome calls) :
    calls.filterMap rejectedBy = ((failure? outcome).bind Failure.rejected?).toList := by
  induction h with
  | arrived => rfl
  | passed here _ ih =>
    rw [List.filterMap_append, here.rejects, ih]
    rfl
  | stopped here => exact here.rejects

theorem Drives.rejects (h : Drives t s p taken outcome calls) :
    calls.filterMap rejectedBy = ((failure? outcome).bind Failure.rejected?).toList := by
  cases h with
  | invalid => rfl
  | valid _ course => exact course.rejects

/-- A failed submission is a creation that was refused. -/
theorem Drives.refused {ref : Ref} {e : Store.Error}
    (h : Drives t s p taken (.error (.submission ref e)) calls) :
    ∃ r : Resource, r.ref = ref ∧ .create r (.error e) ∈ calls := by
  cases h with
  | valid sound course =>
    obtain ⟨step, rest, before, last, -, rfl, -, does⟩ := (Drives.valid sound course).stopped sound
    cases does with
    | refused r _ => exact ⟨r, rfl, by simp⟩

/-! ### Whole runs -/

theorem Drives.sampled (h : Drives t s p taken outcome calls) :
    ∃ attempts, Sampled ((steps p s).filterMap Step.awaited?)
      ((failure? outcome).bind Failure.attempts?) (calls.filterMap readBy) attempts := by
  cases h with
  | invalid => exact ⟨[], .nil _⟩
  | valid _ course => exact course.sampled

theorem Drives.reads_own (h : Drives t s p taken outcome calls) :
    ∀ ref ∈ calls.filterMap readBy, ref ∈ taken.filterMap Step.ref? := by
  cases h with
  | invalid => nofun
  | valid _ course => exact course.reads_own (steps_waitForOwn p s)

/-- What a store in memory has to do with what it was before a run. -/
structure NetEffect (s : Settings) (p : Plan) (before : MemoryStore) (report : Report)
    (calls : List Call) (after : MemoryStore) : Prop where
  kept : ∀ ref stored, before.resources.get? ref = some stored →
    after.resources.get? ref = some stored
  new : ∀ ref ∈ report.created, before.contains ref = false
  stored : ∀ ref, after.contains ref = true ↔
    before.contains ref = true ∨ ref ∈ report.cleanupErrors.map CleanupError.ref
  mutations : after.mutations = before.mutations + (report.created.length + report.deleted.length)
  reads : ∃ attempts, after.reads = before.reads + attempts.sum ∧
    Sampled ((steps p s).filterMap Step.awaited?) (report.failure.bind Failure.attempts?)
      (calls.filterMap readBy) attempts
  /-- A rejection is used up by the submission that fails for it, and by nothing else. -/
  rejections : after.rejections =
    (report.failure.bind Failure.rejected?).toList.foldl Table.erase before.rejections
  rejected : ∀ ref other reason,
    report.failure = some (.submission ref (.rejected other reason)) →
    other = ref ∧ before.rejections.get? ref = some reason
  rollouts : ∀ ref ∉ report.created, after.rollouts.get? ref = before.rollouts.get? ref
  versions : after.versions = before.versions + report.created.length
  undeletable : after.undeletable = before.undeletable

theorem touched_cases {c : Call} {ref : Ref} (h : c.touched? = some ref) :
    createdBy c = some ref ∨ readBy c = some ref ∨ deletedBy c = some ref := by
  rcases c with ⟨_, _ | ⟨⟩⟩ | _ | ⟨_, _ | ⟨⟩⟩ | _ <;> cases h
  · exact .inl rfl
  · exact .inr (.inl rfl)
  · exact .inr (.inr rfl)

/-- What a run has not created it does not touch. -/
theorem Account.untouched (a : Account t s p taken outcome driven cleaned report) {ref : Ref}
    (foreign : ref ∉ report.created) : ∀ c ∈ driven ++ cleaned, c.touched? ≠ some ref := by
  have books := a.bookkeeping
  intro c member touched
  refine foreign ?_
  rcases touched_cases touched with made | read | gone
  · rw [books.created]
    exact List.mem_filterMap.2 ⟨c, member, made⟩
  · rcases List.mem_append.1 member with member | member
    · rw [a.created]
      exact a.drives.reads_own ref (List.mem_filterMap.2 ⟨c, member, read⟩)
    · obtain ⟨_, deletes⟩ := a.cleaned_asks member
      cases c <;> cases deletes
      cases read
  · rw [← List.mem_reverse]
    refine books.deletedSome.subset ?_
    rw [books.deleted]
    exact List.mem_filterMap.2 ⟨c, member, gone⟩

theorem deletedBy_of_kept {c : Call} (h : c.ask.deletion? = none) : deletedBy c = none := by
  cases c <;> first | rfl | cases h

theorem Account.driven_keeps (a : Account t s p taken outcome driven cleaned report) :
    ∀ c ∈ driven, deletedBy c = none :=
  fun _ member => deletedBy_of_kept (a.drives.keeps member)

section Memory

variable {before middle after : MemoryStore}

theorem Account.absent (a : Account t s p taken outcome driven cleaned report)
    (drive : before.Replays driven middle) :
    ∀ ref ∈ report.created, before.contains ref = false := by
  intro ref member
  rw [a.creates] at member
  exact drive.absent_created a.driven_keeps member

theorem Account.middle_contains (a : Account t s p taken outcome driven cleaned report)
    (drive : before.Replays driven middle) (ref : Ref) :
    middle.contains ref = true ↔ before.contains ref = true ∨ ref ∈ report.created := by
  rw [drive.contains_created a.driven_keeps, a.creates]

theorem Account.deleted_created (a : Account t s p taken outcome driven cleaned report) :
    ∀ ref ∈ report.deleted, ref ∈ report.created :=
  fun _ member => List.mem_reverse.1 (a.bookkeeping.deletedSome.subset member)

theorem Account.parts_perm (a : Account t s p taken outcome driven cleaned report) :
    (report.deleted ++ report.cleanupErrors.map CleanupError.ref).Perm report.created :=
  a.bookkeeping.complementary.trans (List.reverse_perm report.created)

theorem Account.parts_nodup (a : Account t s p taken outcome driven cleaned report) :
    (report.deleted ++ report.cleanupErrors.map CleanupError.ref).Nodup :=
  a.parts_perm.nodup_iff.2 a.created_nodup

/-- What was created is either deleted or listed as left. -/
theorem Account.left_iff (a : Account t s p taken outcome driven cleaned report) (ref : Ref) :
    ref ∈ report.cleanupErrors.map CleanupError.ref ↔
      ref ∈ report.created ∧ ref ∉ report.deleted := by
  have all := a.parts_perm.mem_iff (a := ref)
  have apart := (List.nodup_append.1 a.parts_nodup).2.2
  rw [List.mem_append] at all
  constructor
  · intro left
    exact ⟨all.1 (.inr left), fun gone => apart ref gone ref left rfl⟩
  · rintro ⟨made, stays⟩
    exact (all.2 made).resolve_left stays

theorem Account.stored (a : Account t s p taken outcome driven cleaned report)
    (drive : before.Replays driven middle) (clean : middle.Replays cleaned after) (ref : Ref) :
    after.contains ref = true ↔
      before.contains ref = true ∨ ref ∈ report.cleanupErrors.map CleanupError.ref := by
  rw [clean.contains_deleted (a.cleaned_only fun _ _ => rfl), a.middle_contains drive, ← a.deleted,
    a.left_iff]
  constructor
  · rintro ⟨old | made, stays⟩
    · exact .inl old
    · exact .inr ⟨made, stays⟩
  · rintro (old | ⟨made, stays⟩)
    -- What is deleted was created by the run, and that was not there before.
    · refine ⟨.inl old, fun gone => ?_⟩
      cases (a.absent drive ref (a.deleted_created ref gone)).symm.trans old
    · exact ⟨.inr made, stays⟩

theorem Account.mutations (a : Account t s p taken outcome driven cleaned report)
    (drive : before.Replays driven middle) (clean : middle.Replays cleaned after) :
    after.mutations = before.mutations + (report.created.length + report.deleted.length) := by
  have creations : middle.mutations = before.mutations + report.created.length := by
    rw [a.creates]
    exact drive.counted MemoryStore.mutations fun c member => fun here =>
      here.mutations_kept (a.driven_keeps c member)
  have deletions : after.mutations = middle.mutations + report.deleted.length := by
    have distinct := (List.nodup_append.1 a.parts_nodup).1
    have there : ∀ ref ∈ report.deleted, middle.contains ref = true := by
      intro ref member
      exact (a.middle_contains drive ref).2 (.inr (a.deleted_created ref member))
    rw [a.deleted] at distinct there ⊢
    exact clean.mutations_deleted (a.cleaned_only fun _ _ => rfl) distinct there
  rw [deletions, creations, Nat.add_assoc]

theorem Account.netEffect (a : Account t s p taken outcome driven cleaned report)
    (h : before.Replays (driven ++ cleaned) after) :
    NetEffect s p before report (driven ++ cleaned) after := by
  obtain ⟨middle, drive, clean⟩ := h.split
  have none {α : Type} {f : Call → Option α} (only : ∀ ref answer, f (.delete ref answer) = none) :
      (driven ++ cleaned).filterMap f = driven.filterMap f := by
    rw [List.filterMap_append, List.filterMap_eq_nil_iff.2 (a.cleaned_only only), List.append_nil]
  have reads := h.counted MemoryStore.reads fun _ _ => fun here => here.reads
  have versions := h.counted MemoryStore.versions fun _ _ => fun here => here.versions
  have rejections := h.rejections
  rw [none fun _ _ => rfl] at reads versions rejections
  obtain ⟨attempts, sampled⟩ := a.drives.sampled
  rw [sampled.total] at reads
  rw [← a.creates] at versions
  rw [a.drives.rejects, ← a.failure] at rejections
  exact {
    kept := by
      intro ref stored there
      have foreign : ref ∉ report.created := by
        intro made
        have absent := a.absent drive ref made
        rw [MemoryStore.contains_eq, there] at absent
        cases absent
      rw [(h.frame (a.untouched foreign)).1, there]
    new := a.absent drive
    stored := a.stored drive clean
    mutations := a.mutations drive clean
    reads := ⟨attempts, reads, by rwa [none fun _ _ => rfl, a.failure]⟩
    rejections
    rejected := by
      intro ref other reason failed
      rw [a.failure] at failed
      rcases outcome with failure | ⟨⟩ <;> cases failed
      obtain ⟨r, rfl, member⟩ := a.drives.refused
      exact drive.armed member
    rollouts := fun ref foreign => (h.frame (a.untouched foreign)).2
    versions
    undeletable := h.preserved MemoryStore.undeletable fun _ _ => fun here => here.undeletable }

end Memory

/-- Whatever is in a store in memory, a run leaves it there and adds only what it fails to delete. -/
theorem run_netEffect (e : Exec.Endpoint τ) (t : Timing) (s : Settings) (p : Plan)
    (w : World (MemoryStore × τ)) :
    let ended := (run (MemoryStore.backend e) t s p).run w
    Reports t ended fun report =>
      NetEffect s p w.state.1 report ((run (MemoryStore.backend e) t s p).callsOf w)
        ended.2.state.1 := by
  refine reports_of fun report reported => ?_
  have acts := run_acts (MemoryStore.backend e) t s p
  obtain ⟨taken, outcome, driven, cleaned, calls, account⟩ :=
    run_account (MemoryStore.backend e) t s p reported
  have replays := MemoryStore.replays_of_history (acts.history w)
  rw [calls] at replays
  simp only [calls]
  exact account.netEffect replays

end BrokerRollout.Scenario
