import BrokerRollout.Scenario
import BrokerRollout.Proofs.Plans

/-!
# The steps of a run

A run submits resources, each in one step, enters a phase, and goes on with the verification if its
settings ask for it. Main statements: what the steps are (`mem_steps`), and the phases they enter,
the resources they create and the workers they check (`phases_steps`, `refs_steps`,
`workers_steps`).
-/

namespace BrokerRollout.Scenario

variable {p : Plan} {s : Settings} {α β γ : Type}

def Step.phase? : Step → Option Phase
  | .enter phase => some phase
  | _ => none

def Step.ref? : Step → Option Ref
  | .submit resource => some resource.ref
  | _ => none

def Step.worker? : Step → Option String
  | .checkWorker request _ => some request.worker
  | _ => none

/-! ### Submission and verification -/

/-- The steps that submit the security domain and the addresses. -/
def dependents (p : Plan) : List Step :=
  p.security.toList.map (fun s => .submit (.security s))
    ++ p.addresses.flatMap (fun a => [.submit (.address a), .awaitPersisted a.ref])

/-- The steps before the first phase. -/
def submissionSteps (p : Plan) (s : Settings) : List Step :=
  .submit (.cluster p.cluster) ::
    ((if s.verifiesLiveState && s.waitBeforeDependents then [awaitWorkers p] else [])
      ++ dependents p)

def check (p : Plan) (ordinal : Nat) : Step := .checkWorker (p.workerRequest ordinal) p.markers

theorem steps_eq (p : Plan) (s : Settings) :
    steps p s = submissionSteps p s ++
      .enter .submitted :: if s.verifiesLiveState then verification p else [] := by
  simp [steps, submission, submissionSteps, dependents]

theorem verification_eq (p : Plan) :
    verification p = awaitWorkers p :: .enter .converged :: .enter .perUnitVerifying ::
      (p.cluster.ordinalsDescending.map (check p) ++ [.enter .verified]) := by
  simp [verification, check]

/-! ### What the steps are -/

theorem mem_dependents {step : Step} (h : step ∈ dependents p) :
    (∃ resource ∈ p.resources, step = .submit resource) ∨
      ∃ a ∈ p.addresses, step = .awaitPersisted a.ref := by
  simp only [dependents, List.mem_append, List.mem_map, List.mem_flatMap, List.mem_cons,
    List.not_mem_nil, or_false, Option.mem_toList] at h
  rcases h with ⟨_, listed, rfl⟩ | ⟨a, listed, rfl | rfl⟩
  · exact .inl ⟨_, by simp [Plan.resources, listed], rfl⟩
  · exact .inl ⟨_, by simp [Plan.resources, listed], rfl⟩
  · exact .inr ⟨a, listed, rfl⟩

theorem mem_submissionSteps {step : Step} (h : step ∈ submissionSteps p s) :
    (∃ resource ∈ p.resources, step = .submit resource) ∨ step = awaitWorkers p ∨
      ∃ a ∈ p.addresses, step = .awaitPersisted a.ref := by
  rcases List.mem_cons.1 h with rfl | member
  · exact .inl ⟨_, by simp [Plan.resources], rfl⟩
  rcases List.mem_append.1 member with waits | member
  · split at waits
    · exact .inr (.inl (List.mem_singleton.1 waits))
    · cases waits
  · rcases mem_dependents member with submits | persists
    · exact .inl submits
    · exact .inr (.inr persists)

theorem submit_mem {resource : Resource} (h : resource ∈ p.resources) :
    .submit resource ∈ submissionSteps p s := by
  simp only [Plan.resources, List.mem_cons, List.mem_append, List.mem_map, Option.mem_toList] at h
  rcases h with (rfl | ⟨security, listed, rfl⟩) | ⟨a, listed, rfl⟩
  · exact List.mem_cons_self
  · simp [submissionSteps, dependents, listed]
  · simp only [submissionSteps, dependents, List.mem_cons, List.mem_append, List.mem_flatMap]
    exact .inr (.inr (.inr ⟨a, listed, .inl rfl⟩))

theorem mem_verification {step : Step} (h : step ∈ verification p) :
    step = awaitWorkers p ∨ (∃ phase, step = .enter phase) ∨
      ∃ ordinal < p.cluster.replicas, step = check p ordinal := by
  rw [verification_eq] at h
  simp only [List.mem_cons, List.mem_append, List.mem_map, List.not_mem_nil, or_false,
    Cluster.mem_ordinalsDescending] at h
  rcases h with rfl | rfl | rfl | ⟨ordinal, below, rfl⟩ | rfl
  · exact .inl rfl
  · exact .inr (.inl ⟨_, rfl⟩)
  · exact .inr (.inl ⟨_, rfl⟩)
  · exact .inr (.inr ⟨ordinal, below, rfl⟩)
  · exact .inr (.inl ⟨_, rfl⟩)

theorem mem_steps {step : Step} (h : step ∈ steps p s) :
    (∃ resource ∈ p.resources, step = .submit resource) ∨ step = awaitWorkers p ∨
      (∃ a ∈ p.addresses, step = .awaitPersisted a.ref) ∨ (∃ phase, step = .enter phase) ∨
      ∃ ordinal < p.cluster.replicas, step = check p ordinal := by
  rw [steps_eq, List.mem_append, List.mem_cons] at h
  rcases h with member | rfl | member
  · rcases mem_submissionSteps member with submits | waits | persists
    · exact .inl submits
    · exact .inr (.inl waits)
    · exact .inr (.inr (.inl persists))
  · exact .inr (.inr (.inr (.inl ⟨_, rfl⟩)))
  · split at member
    · rcases mem_verification member with waits | later
      · exact .inr (.inl waits)
      · exact .inr (.inr (.inr later))
    · cases member

/-! ### What the steps are for -/

theorem filterMap_map_some {f : α → β} {g : β → Option γ} {h : α → γ}
    (same : ∀ a, g (f a) = some (h a)) (l : List α) : (l.map f).filterMap g = l.map h := by
  have composed : g ∘ f = some ∘ h := funext same
  rw [List.filterMap_map, composed, List.filterMap_eq_map]

theorem filterMap_map_none {f : α → β} {g : β → Option γ} (none : ∀ a, g (f a) = none)
    (l : List α) : (l.map f).filterMap g = [] := by
  rw [List.filterMap_eq_nil_iff]
  intro b member
  obtain ⟨a, _, rfl⟩ := List.mem_map.1 member
  exact none a

theorem phases_submissionSteps (p : Plan) (s : Settings) :
    (submissionSteps p s).filterMap Step.phase? = [] := by
  rw [List.filterMap_eq_nil_iff]
  intro step member
  rcases mem_submissionSteps member with ⟨_, _, rfl⟩ | rfl | ⟨_, _, rfl⟩ <;> rfl

theorem phases_checks (p : Plan) (ordinals : List Nat) :
    (ordinals.map (check p)).filterMap Step.phase? = [] :=
  filterMap_map_none (fun _ => rfl) ordinals

theorem phases_steps (p : Plan) (s : Settings) :
    (steps p s).filterMap Step.phase? = .submitted ::
      if s.verifiesLiveState then [.converged, .perUnitVerifying, .verified] else [] := by
  rw [steps_eq, List.filterMap_append, phases_submissionSteps]
  split
  · rw [verification_eq]
    simp only [List.filterMap_cons, List.filterMap_append, Step.phase?, awaitWorkers, phases_checks]
    rfl
  · rfl

theorem refs_dependents (p : Plan) :
    (dependents p).filterMap Step.ref? =
      (p.security.toList.map Resource.security ++ p.addresses.map Resource.address).map
        Resource.ref := by
  rw [dependents, List.filterMap_append, List.filterMap_flatMap, List.map_append, List.map_map,
    List.map_map]
  congr 1
  · exact filterMap_map_some (g := Step.ref?) (fun _ => rfl) _
  · rw [List.map_eq_flatMap]
    rfl

theorem refs_submissionSteps (p : Plan) (s : Settings) :
    (submissionSteps p s).filterMap Step.ref? = p.resources.map Resource.ref := by
  simp only [submissionSteps, List.filterMap_cons, Step.ref?, List.filterMap_append,
    refs_dependents]
  split <;> simp [Plan.resources, awaitWorkers, Step.ref?, List.filterMap_cons]

theorem refs_steps (p : Plan) (s : Settings) :
    (steps p s).filterMap Step.ref? = p.resources.map Resource.ref := by
  have checks := filterMap_map_none (f := check p) (g := Step.ref?) (fun _ => rfl)
  rw [steps_eq, List.filterMap_append, refs_submissionSteps]
  split
  · rw [verification_eq]
    simp only [List.filterMap_cons, List.filterMap_append, Step.ref?, awaitWorkers, checks]
    exact List.append_nil _
  · exact List.append_nil _

theorem workers_submissionSteps (p : Plan) (s : Settings) :
    (submissionSteps p s).filterMap Step.worker? = [] := by
  rw [List.filterMap_eq_nil_iff]
  intro step member
  rcases mem_submissionSteps member with ⟨_, _, rfl⟩ | rfl | ⟨_, _, rfl⟩ <;> rfl

theorem workers_steps (live : s.verifiesLiveState = true) :
    (steps p s).filterMap Step.worker? =
      (List.range p.cluster.replicas).reverse.map p.cluster.workerName := by
  have checks := filterMap_map_some (f := check p) (g := Step.worker?) (h := p.cluster.workerName)
    (fun _ => rfl)
  rw [steps_eq, if_pos live, verification_eq, List.filterMap_append, workers_submissionSteps]
  simp only [List.filterMap_cons, List.filterMap_append, Step.worker?, awaitWorkers, checks]
  exact List.append_nil _

end BrokerRollout.Scenario
