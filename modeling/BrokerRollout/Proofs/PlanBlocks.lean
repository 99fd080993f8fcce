import BrokerRollout.Proofs.Blocks
import BrokerRollout.Proofs.Course
import BrokerRollout.Proofs.Plans

/-!
# The blocks of a plan

A step of a run is a block of calls, or it only enters a phase. The blocks of a plan are stated
without the probes: by the call that is made, by what the accepted answer shows, and by the bound
that is announced for the window. Main statement: a run of a valid plan goes through the blocks of
the plan, and if it fails or panics it is in one of them (`Drives.through`, `Drives.cutShort`,
`Interrupted.cutShort`).
-/

namespace BrokerRollout

variable {σ β π ε α : Type}

/-! ### Polls as blocks -/

/-- A block that accepts the calls on which the probe passes, within the window. -/
structure Sampling.Fits (s : Sampling β π ε α) (w : Window) (k : Block) : Prop where
  asks : ∀ answer, (s.call answer).ask = k.ask
  accepts : ∀ answer, k.Accepts (s.call answer) ↔ ∃ value, s.judge answer = .ok value
  bound : w.slots < k.bound

namespace Sampling.Fits

variable {s : Sampling β π ε α} {w : Window} {k : Block} {answers : List β}

theorem vain (h : s.Fits w k) (failed : s.Vain answers) : k.Vain (answers.map s.call) := by
  intro c member
  obtain ⟨answer, present, rfl⟩ := List.mem_map.1 member
  refine ⟨h.asks answer, fun accepted => ?_⟩
  obtain ⟨value, passed⟩ := (h.accepts answer).1 accepted
  obtain ⟨error, stopped⟩ := failed answer present
  cases passed.symm.trans stopped

theorem passes {value : α} (h : s.Fits w k) (ends : s.Ends w 0 (.ok value) answers) :
    k.Passes (answers.map s.call) := by
  cases ends with
  | held before bound judged =>
    have room := h.bound
    rw [List.map_append]
    exact .intro (h.vain before) (h.asks _) ((h.accepts _).2 ⟨value, judged⟩)
      (by rw [List.length_map]; omega)

theorem fails {exhausted : Exhausted ε} (h : s.Fits w k)
    (ends : s.Ends w 0 (.error exhausted) answers) : k.Fails (answers.map s.call) := by
  cases ends with
  | exhausted before bound judged _ =>
    have room := h.bound
    refine ⟨by simp, h.vain ?_, by simp; omega⟩
    intro answer member
    rcases List.mem_append.1 member with member | member
    · exact before answer member
    · rw [List.mem_singleton.1 member]
      exact ⟨_, judged⟩

/-- All attempts of a poll that panics were in vain. -/
theorem panics {panic : Panic} (h : s.Fits w k) (stuck : s.Panics w 0 panic answers) :
    k.Fails (answers.map s.call) := by
  have room := h.bound
  have bound := stuck.bound
  exact ⟨by simpa using stuck.some, h.vain stuck.vain, by rw [List.length_map]; omega⟩

end Sampling.Fits

/-! ### Answers that probes pass on -/

theorem ReadyProbe.judge_ok_iff {cluster : Ref} {expected : Nat} {answer : ReadAnswer} :
    (∃ value, judge cluster expected answer = .ok value) ↔
      ∃ found, answer = .ok (some found) ∧ found.readyCount = expected :=
  exists_congr fun _ => judge_eq_ok_iff

theorem PersistedProbe.judge_ok_iff {ref : Ref} {answer : ReadAnswer} :
    (∃ value, judge ref answer = .ok value) ↔
      ∃ found, answer = .ok (some found) ∧ found.ref.name = ref.name :=
  exists_congr fun _ => judge_eq_ok_iff

/-- The command ended without an error, and every marker occurs in the text of its output. -/
def Exec.Output.Shows (output : Exec.Output) (markers : List String) : Prop :=
  output.error = none ∧ ∀ m ∈ markers, m.toList <:+: output.stdoutText.toList

theorem missingMarkers_eq_nil_iff {text : String} {markers : List String} :
    missingMarkers text markers = [] ↔ ∀ m ∈ markers, m.toList <:+: text.toList := by
  rw [missingMarkers, List.filter_eq_nil_iff]
  simp [Text.occursIn_iff]

theorem WorkerProbe.judge_ok_iff {request : Exec.Request} {markers : List String}
    {output : Exec.Output} :
    (∃ value, judge request markers output = .ok value) ↔ output.Shows markers := by
  rw [judge, Exec.Output.Shows, ← missingMarkers_eq_nil_iff]
  cases output.error with
  | some error => simp
  | none => cases missingMarkers output.stdoutText markers <;> simp

namespace Scenario

variable {t : Timing} {s : Settings} {p : Plan}

/-! ### Blocks -/

/-- A resource is created by one call. -/
def creation (resource : Resource) : Block where
  ask := .create resource
  Accepts c := c = .create resource (.ok ())
  bound := 1

/-- A cluster is read until it has as many ready workers as expected. -/
def readiness (t : Timing) (cluster : Ref) (expected : Nat) : Block where
  ask := .get cluster
  Accepts c := ∃ found, c = .get cluster (.ok (some found)) ∧ found.readyCount = expected
  bound := t.convergence.announced

/-- A resource is read until it is found under its name. -/
def persistence (t : Timing) (ref : Ref) : Block where
  ask := .get ref
  Accepts c := ∃ found, c = .get ref (.ok (some found)) ∧ found.ref.name = ref.name
  bound := t.persistence.announced

/-- A command is run until its output shows the markers. -/
def inspection (t : Timing) (request : Exec.Request) (markers : List String) : Block where
  ask := .openSession request
  Accepts c := ∃ session, c = .openSession request (.ok session) ∧ session.output.Shows markers
  bound := t.worker.announced

theorem readiness_fits (narrow : t.Narrow) (cluster : Ref) (expected : Nat) :
    (ReadyProbe.sampling cluster expected).Fits t.convergence (readiness t cluster expected) where
  asks _ := rfl
  accepts answer := by
    rw [ReadyProbe.sampling, ReadyProbe.judge_ok_iff]
    simp [readiness]
  bound := narrow.convergence.slots_lt

theorem persistence_fits (narrow : t.Narrow) (ref : Ref) :
    (PersistedProbe.sampling ref).Fits t.persistence (persistence t ref) where
  asks _ := rfl
  accepts answer := by
    rw [PersistedProbe.sampling, PersistedProbe.judge_ok_iff]
    simp [persistence]
  bound := narrow.persistence.slots_lt

theorem inspection_fits (narrow : t.Narrow) (request : Exec.Request) (markers : List String) :
    (WorkerProbe.sampling request markers).Fits t.worker (inspection t request markers) where
  asks _ := rfl
  accepts answer := by
    rw [WorkerProbe.sampling, WorkerProbe.judge_ok_iff]
    cases answer with
    | error e => simp [inspection, Exec.Output.ofOpening, Exec.Output.failed, Exec.Output.Shows]
    | ok session => simp [inspection, Exec.Output.ofOpening]
  bound := narrow.worker.slots_lt

def Step.block? (t : Timing) : Step → Option Block
  | .submit resource => some (creation resource)
  | .awaitReady cluster expected => some (readiness t cluster expected)
  | .awaitPersisted ref => some (persistence t ref)
  | .enter _ => none
  | .checkWorker request markers => some (inspection t request markers)

theorem Step.Does.passes {step : Step} {calls : List Call} (narrow : t.Narrow)
    (h : step.Does t (.ok ()) calls) : Through (step.block? t).toList calls := by
  cases h with
  | created resource => exact .single (.first rfl rfl Nat.one_pos)
  | ready ends => exact .single ((readiness_fits narrow _ _).passes ends)
  | persisted ends => exact .single ((persistence_fits narrow _).passes ends)
  | entered => exact .done
  | checked ends => exact .single ((inspection_fits narrow _ _).passes ends)

theorem Step.Does.fails {step : Step} {failure : Failure} {calls : List Call} (narrow : t.Narrow)
    (h : step.Does t (.error failure) calls) : ∃ k, step.block? t = some k ∧ k.Fails calls := by
  cases h with
  | refused resource e =>
    refine ⟨_, rfl, by simp, ?_, Nat.le_refl 1⟩
    simp [Block.Vain, creation, Call.ask]
  | unready ends => exact ⟨_, rfl, (readiness_fits narrow _ _).fails ends⟩
  | unpersisted ends => exact ⟨_, rfl, (persistence_fits narrow _).fails ends⟩
  | unchecked ends => exact ⟨_, rfl, (inspection_fits narrow _ _).fails ends⟩

theorem Step.Panics.fails {step : Step} {panic : Panic} {calls : List Call} (narrow : t.Narrow)
    (h : step.Panics t panic calls) : ∃ k, step.block? t = some k ∧ k.Fails calls := by
  cases h with
  | unready stuck => exact ⟨_, rfl, (readiness_fits narrow _ _).panics stuck⟩
  | unpersisted stuck => exact ⟨_, rfl, (persistence_fits narrow _).panics stuck⟩
  | unchecked stuck => exact ⟨_, rfl, (inspection_fits narrow _ _).panics stuck⟩

theorem Step.Panics.instant {step : Step} {panic : Panic} {calls : List Call} (narrow : t.Narrow)
    (h : step.Panics t panic calls) : panic = .instant := by
  cases h with
  | unready stuck => exact stuck.instant narrow.convergence
  | unpersisted stuck => exact stuck.instant narrow.persistence
  | unchecked stuck => exact stuck.instant narrow.worker

theorem Course.passes {steps taken : List Step} {outcome : Except Failure Unit}
    {calls : List Call} (narrow : t.Narrow) (h : Course t steps taken outcome calls)
    (arrived : outcome = .ok ()) : Through (taken.filterMap (Step.block? t)) calls := by
  induction h with
  | arrived => exact .done
  | @passed step rest taken outcome calls more here later ih =>
    have through := (here.passes narrow).append (ih arrived)
    cases block : step.block? t with
    | none =>
      rw [block] at through
      rwa [List.filterMap_cons_none block]
    | some k =>
      rw [block] at through
      rwa [List.filterMap_cons_some block]
  | stopped => cases arrived

/-! ### Plans -/

/-- The blocks that submit a plan: each address is read back before the next one is created. -/
def submissionBlocks (t : Timing) (s : Settings) (p : Plan) : List Block :=
  creation (.cluster p.cluster) ::
    ((if s.verifiesLiveState && s.waitBeforeDependents then
        [readiness t p.cluster.ref p.cluster.replicas]
      else [])
      ++ p.security.toList.map (fun s => creation (.security s))
      ++ p.addresses.flatMap fun a => [creation (.address a), persistence t a.ref])

/-- The block that checks the worker of a given ordinal. -/
def workerBlock (t : Timing) (p : Plan) (ordinal : Nat) : Block :=
  inspection t (p.workerRequest ordinal) p.markers

/-- The blocks that verify a plan: workers are checked from the highest ordinal down. -/
def verificationBlocks (t : Timing) (s : Settings) (p : Plan) : List Block :=
  if s.verifiesLiveState then
    readiness t p.cluster.ref p.cluster.replicas ::
      p.cluster.ordinalsDescending.map (workerBlock t p)
  else []

def blocks (t : Timing) (s : Settings) (p : Plan) : List Block :=
  submissionBlocks t s p ++ verificationBlocks t s p

theorem submissionBlocks_eq (t : Timing) (s : Settings) (p : Plan) :
    (submissionSteps p s).filterMap (Step.block? t) = submissionBlocks t s p := by
  have secures : (p.security.toList.map fun s => Step.submit (.security s)).filterMap
      (Step.block? t) = p.security.toList.map fun s => creation (.security s) :=
    filterMap_map_some (g := Step.block? t) (fun _ => rfl) _
  have addresses : (p.addresses.flatMap fun a =>
      [Step.submit (.address a), .awaitPersisted a.ref]).filterMap (Step.block? t) =
        p.addresses.flatMap fun a => [creation (.address a), persistence t a.ref] := by
    rw [List.filterMap_flatMap]
    rfl
  simp only [submissionSteps, dependents, submissionBlocks, List.filterMap_cons,
    List.filterMap_append, secures, addresses, Step.block?]
  split <;> simp [awaitWorkers, Step.block?]

theorem blocks_eq (t : Timing) (s : Settings) (p : Plan) :
    (steps p s).filterMap (Step.block? t) = blocks t s p := by
  have checks := filterMap_map_some (f := check p) (g := Step.block? t) (h := workerBlock t p)
    (fun _ => rfl)
  rw [steps_eq, List.filterMap_append, submissionBlocks_eq, blocks, verificationBlocks]
  split
  · rw [verification_eq]
    simp [List.filterMap_cons, Step.block?, awaitWorkers, checks]
  · rfl

theorem Drives.through {taken : List Step} {calls : List Call} (narrow : t.Narrow)
    (h : Drives t s p taken (.ok ()) calls) : Through (blocks t s p) calls := by
  rw [← blocks_eq]
  exact h.arrived.passes narrow rfl

theorem Drives.cutShort {taken : List Step} {failure : Failure} {calls : List Call}
    (narrow : t.Narrow) (h : Drives t s p taken (.error failure) calls)
    (valid : p.validate = .ok ()) : CutShort (blocks t s p) calls := by
  obtain ⟨step, rest, before, last, place, rfl, course, does⟩ := h.stopped valid
  obtain ⟨k, block, fails⟩ := does.fails narrow
  rw [← blocks_eq, place, List.filterMap_append, List.filterMap_cons_some block]
  exact .intro (course.passes narrow rfl) fails

theorem Interrupted.cutShort {taken : List Step} {panic : Panic} {calls : List Call}
    (narrow : t.Narrow) (h : Interrupted t (steps p s) taken panic calls) :
    CutShort (blocks t s p) calls := by
  obtain ⟨step, rest, before, last, place, rfl, course, panics⟩ := h.split
  obtain ⟨k, block, fails⟩ := panics.fails narrow
  rw [← blocks_eq, place, List.filterMap_append, List.filterMap_cons_some block]
  exact .intro (course.passes narrow rfl) fails

end Scenario

end BrokerRollout
