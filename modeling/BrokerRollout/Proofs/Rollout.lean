import BrokerRollout.Proofs.Stages
import Mathlib.Algebra.GroupWithZero.Nat
import Mathlib.Control.Monad.Basic

/-!
# Live runs over a scripted rollout

If the reads of the cluster follow a script and every worker answers from outcomes of its own, a
live run of a valid plan passes just if both waits for the cluster and the check of every worker
would succeed inside their windows before the clock ends, and then it lasts as long as these
together. Main statement: `run_rollout`.
-/

namespace BrokerRollout.Scenario

variable {τ : Type}

/-! ### Whole runs -/

/-- A live run of a valid plan whose resources are free, with a script for the reads of the cluster
and endless outcomes for each worker, at whole milliseconds. -/
structure Rehearsed (e : Exec.Endpoint τ) (t : Timing) (s : Settings) (p : Plan)
    (script : Script Nat) (outcomes : Nat → Nat → Except Exec.Error Exec.Session)
    (asked : (Nat → Nat) → τ → Prop) (w : World (MemoryStore × τ)) : Prop where
  valid : p.validate = .ok ()
  live : s.verifiesLiveState = true
  free : ∀ q ∈ p.resources,
    w.state.1.contains q.ref = false ∧ w.state.1.rejections.get? q.ref = none
  armed : w.state.1.rollouts.get? p.cluster.ref = some script
  nonempty : script.items ≠ []
  serves : e.Serves p outcomes asked
  fresh : asked (fun _ => 0) w.state.2
  clock : w.now < Time.limit
  whole : Time.Whole w.now
  narrow : t.convergence.Narrow ∧ t.worker.Narrow
  convergence : Time.Whole t.convergence.interval.nanos
  worker : Time.Whole t.worker.interval.nanos

/-- Every wait succeeds inside its window: the first wait for the cluster with read `j₁`, the second
with read `j₂` of those that are left, and the check of each worker with its outcome `a`, all counted
from zero. Unless dependents have to wait, there is no second wait. -/
structure Timely (t : Timing) (s : Settings) (p : Plan) (script : Script Nat)
    (outcomes : Nat → Nat → Except Exec.Error Exec.Session) (j₁ j₂ : Nat) (a : Nat → Nat) : Prop where
  first : First (fun i => script.nth? i = some p.cluster.replicas) j₁
  second : if s.waitBeforeDependents then
    First (fun i => script.nth? (j₁ + 1 + i) = some p.cluster.replicas) j₂ else j₂ = 0
  inside : j₁ ≤ t.convergence.slots ∧ j₂ ≤ t.convergence.slots
  shown : ∀ o < p.cluster.replicas,
    First (fun k => (Exec.Output.ofOpening (outcomes o k)).Shows p.markers) (a o) ∧
      a o ≤ t.worker.slots

/-- How long the waits and checks take that are timely. -/
def Timing.lasts (t : Timing) (p : Plan) (j₁ j₂ : Nat) (a : Nat → Nat) : Nat :=
  t.convergence.interval.nanos * (j₁ + j₂)
    + t.worker.interval.nanos * ((List.range p.cluster.replicas).map a).sum

section Runs

variable {e : Exec.Endpoint τ} {t : Timing} {s : Settings} {p : Plan} {script : Script Nat}
  {outcomes : Nat → Nat → Except Exec.Error Exec.Session} {asked : (Nat → Nat) → τ → Prop}
  {w : World (MemoryStore × τ)} {j j₁ j₂ k d : Nat} {a : Nat → Nat}

/-- The steps before workers are checked. -/
def waitingSteps (p : Plan) (s : Settings) : List Step :=
  submissionSteps p s ++ [.enter .submitted] ++
    ([awaitWorkers p] ++ [.enter .converged, .enter .perUnitVerifying])

theorem steps_live (live : s.verifiesLiveState = true) : steps p s = waitingSteps p s ++
    (p.cluster.ordinalsDescending.map (check p) ++ [.enter .verified]) := by
  rw [steps_eq, if_pos live, verification_eq]
  simp [waitingSteps]

theorem submissionSteps_waiting (live : s.verifiesLiveState = true)
    (waits : s.waitBeforeDependents = true) : submissionSteps p s ++ [.enter .submitted] =
      [.submit (.cluster p.cluster)] ++
        ([awaitWorkers p] ++ (dependents p ++ [.enter .submitted])) := by
  simp [submissionSteps, live, waits]

theorem submissionSteps_straight (hastes : s.waitBeforeDependents = false) :
    submissionSteps p s ++ [.enter .submitted] =
      [.submit (.cluster p.cluster)] ++ (dependents p ++ [.enter .submitted]) := by
  simp [submissionSteps, hastes]

namespace Rehearsed

theorem clear (h : Rehearsed e t s p script outcomes asked w) :
    ∀ q ∈ p.resources, w.state.1.obstacle? q.ref = none := by
  intro q member
  obtain ⟨absent, unarmed⟩ := h.free q member
  exact MemoryStore.obstacle?_eq_none.2 ⟨unarmed, absent⟩

theorem cluster_reaches (h : Rehearsed e t s p script outcomes asked w) :
    ∃ r₁ w₁ version, Reaches (MemoryStore.backend e) t [.submit (.cluster p.cluster)] {} w r₁ w₁ ∧
      w₁.now = w.now ∧ w₁.state.2 = w.state.2 ∧
      MemoryStore.AtRead p.cluster script version w₁.state.1 0 w₁.state.1 ∧
      ∀ q ∈ dependentResources p, w₁.state.1.obstacle? q.ref = none := by
  obtain ⟨first, clear⟩ := List.forall_mem_cons.1 h.clear
  have apart := dependents_apart (Plan.nodup_refs h.valid)
  obtain ⟨r₁, w₁, version, submits, now, state, same, reading⟩ :=
    Scenario.cluster_reaches e t first h.armed {}
  refine ⟨r₁, w₁, version, submits, now, state, reading, fun q member => ?_⟩
  rw [same.obstacle? (apart q member), clear q member]

theorem submission_reaches (h : Rehearsed e t s p script outcomes asked w)
    (submitted : Submitted t s p script k d)
    (clock : w.now + t.convergence.interval.nanos * d < Time.limit) :
    ∃ r' w' version, Reaches (MemoryStore.backend e) t
      (submissionSteps p s ++ [.enter .submitted]) {} w r' w' ∧
      w'.now = w.now + t.convergence.interval.nanos * d ∧ w'.state.2 = w.state.2 ∧
      MemoryStore.AtRead p.cluster script version w'.state.1 k w'.state.1 := by
  have distinct := Plan.nodup_refs h.valid
  obtain ⟨r₁, w₁, version, submits, now, state, reading, clear⟩ := h.cluster_reaches
  cases submitted with
  | straight hastes =>
    obtain ⟨r', w', rest, later, kept, reading⟩ := dependents_reaches e t distinct clear reading r₁
    refine ⟨r', w', version, ?_, later.trans now, kept.trans state, reading⟩
    rw [submissionSteps_straight hastes]
    exact submits.append rest
  | waiting waits ready inside =>
    obtain ⟨w₂, passes, lasted, later, same⟩ := awaitWorkers_reaches e h.nonempty reading h.narrow.1
      h.convergence (now.symm ▸ h.whole) ready inside (now.symm ▸ clock) r₁
    have still : ∀ q ∈ dependentResources p, w₂.state.1.obstacle? q.ref = none := by
      intro q member
      rw [later.apart.obstacle? (dependents_apart distinct q member), clear q member]
    obtain ⟨r', w', rest, ended, kept, last⟩ := dependents_reaches e t distinct still later r₁
    refine ⟨r', w', version, ?_, ?_, kept.trans (same.trans state), ?_⟩
    · rw [submissionSteps_waiting h.live waits]
      exact submits.append (passes.append rest)
    · rw [ended, lasted, now]
    · rwa [Nat.zero_add] at last

theorem submission_breaks (h : Rehearsed e t s p script outcomes asked w)
    (never : ∀ k d, Submitted t s p script k d →
      Time.limit ≤ w.now + t.convergence.interval.nanos * d) :
    Breaks (MemoryStore.backend e) t (submissionSteps p s ++ [.enter .submitted]) {} w := by
  obtain ⟨r₁, w₁, version, submits, now, -, reading, -⟩ := h.cluster_reaches
  have waits : s.waitBeforeDependents = true := by
    rw [← Bool.not_eq_false]
    exact fun hastes => absurd h.clock (Nat.not_lt.2 (never 0 0 (.straight hastes)))
  have stops := awaitWorkers_breaks e h.nonempty reading h.narrow.1 h.convergence
    (now.symm ▸ h.whole) (now.symm ▸ h.clock)
    (fun j ready inside => now.symm ▸ never (j + 1) j (.waiting waits ready inside)) r₁
  rw [submissionSteps_waiting h.live waits]
  exact submits.breaks (stops.append _)

theorem waiting_reaches (h : Rehearsed e t s p script outcomes asked w)
    (submitted : Submitted t s p script k d) (ready : ReadyAfter p script k j)
    (inside : j ≤ t.convergence.slots)
    (clock : w.now + t.convergence.interval.nanos * (d + j) < Time.limit) :
    ∃ r' w', Reaches (MemoryStore.backend e) t (waitingSteps p s) {} w r' w' ∧
      w'.now = w.now + t.convergence.interval.nanos * (d + j) ∧ w'.state.2 = w.state.2 := by
  rw [Nat.mul_add, ← Nat.add_assoc] at clock ⊢
  obtain ⟨r₁, w₁, version, submits, lasted, state, reading⟩ :=
    h.submission_reaches submitted (Nat.lt_of_le_of_lt (Nat.le_add_right ..) clock)
  have whole : Time.Whole w₁.now := lasted ▸ h.whole.add_mul h.convergence d
  obtain ⟨w₂, passes, later, -, same⟩ := awaitWorkers_reaches e h.nonempty reading h.narrow.1
    h.convergence whole ready inside (lasted ▸ clock) r₁
  have enters := (enter_immediate .converged w₂.state.1 r₁).append
    (enter_immediate .perUnitVerifying w₂.state.1 _)
  refine ⟨_, _, submits.append (passes.append (enters.reaches e t rfl)), ?_, same.trans state⟩
  show w₂.now = _
  rw [later, lasted]

theorem waiting_breaks (h : Rehearsed e t s p script outcomes asked w)
    (never : ∀ k d j, Submitted t s p script k d → ReadyAfter p script k j →
      j ≤ t.convergence.slots →
      Time.limit ≤ w.now + t.convergence.interval.nanos * (d + j)) :
    Breaks (MemoryStore.backend e) t (waitingSteps p s) {} w := by
  by_cases timely : ∃ k d, Submitted t s p script k d ∧
    w.now + t.convergence.interval.nanos * d < Time.limit
  · obtain ⟨k, d, submitted, clock⟩ := timely
    obtain ⟨r₁, w₁, version, submits, lasted, -, reading⟩ := h.submission_reaches submitted clock
    have whole : Time.Whole w₁.now := lasted ▸ h.whole.add_mul h.convergence d
    have stops := awaitWorkers_breaks e h.nonempty reading h.narrow.1 h.convergence whole
      (lasted ▸ clock) (fun j ready inside => ?_) r₁
    · exact submits.breaks (stops.append _)
    · have late := never k d j submitted ready inside
      rwa [Nat.mul_add, ← Nat.add_assoc, ← lasted] at late
  · refine (h.submission_breaks fun k d submitted => ?_).append _
    exact Nat.le_of_not_lt fun clock => timely ⟨k, d, submitted, clock⟩

theorem steps_reach (h : Rehearsed e t s p script outcomes asked w)
    (submitted : Submitted t s p script k d) (ready : ReadyAfter p script k j)
    (inside : j ≤ t.convergence.slots)
    (shown : ∀ o < p.cluster.replicas, ShownAfter p outcomes o (a o) ∧ a o ≤ t.worker.slots)
    (clock : w.now + t.convergence.interval.nanos * (d + j)
      + t.worker.interval.nanos * (p.cluster.ordinalsDescending.map a).sum < Time.limit) :
    ∃ r' w', Reaches (MemoryStore.backend e) t (steps p s) {} w r' w' ∧
      w'.now = w.now + t.convergence.interval.nanos * (d + j)
        + t.worker.interval.nanos * (p.cluster.ordinalsDescending.map a).sum := by
  obtain ⟨r₁, w₁, waits, lasted, state⟩ := h.waiting_reaches submitted ready inside
    (Nat.lt_of_le_of_lt (Nat.le_add_right ..) clock)
  have whole : Time.Whole w₁.now := lasted ▸ h.whole.add_mul h.convergence _
  obtain ⟨r₂, w₂, checks, later⟩ := checks_reach h.serves h.narrow.2 h.worker
    (fun o member => shown o (Cluster.mem_ordinalsDescending.1 member))
    p.cluster.ordinalsDescending_nodup
    (fun o member => Cluster.mem_ordinalsDescending.1 member) whole (lasted ▸ clock)
    (state.symm ▸ h.fresh) (fun _ _ => rfl) r₁
  have enters := (enter_immediate .verified w₂.state.1 r₂).reaches e t rfl
  refine ⟨_, _, steps_live h.live ▸ waits.append (checks.append enters), ?_⟩
  show w₂.now = _
  rw [later, lasted]

theorem steps_break (h : Rehearsed e t s p script outcomes asked w)
    (never : ∀ k d j a, Submitted t s p script k d → ReadyAfter p script k j →
      j ≤ t.convergence.slots →
      (∀ o < p.cluster.replicas, ShownAfter p outcomes o (a o) ∧ a o ≤ t.worker.slots) →
      Time.limit ≤ w.now + t.convergence.interval.nanos * (d + j)
        + t.worker.interval.nanos * (p.cluster.ordinalsDescending.map a).sum) :
    Breaks (MemoryStore.backend e) t (steps p s) {} w := by
  rw [steps_live h.live]
  by_cases timely : ∃ k d j, Submitted t s p script k d ∧ ReadyAfter p script k j ∧
    j ≤ t.convergence.slots ∧ w.now + t.convergence.interval.nanos * (d + j) < Time.limit
  · obtain ⟨k, d, j, submitted, ready, inside, clock⟩ := timely
    obtain ⟨r₁, w₁, waits, lasted, state⟩ := h.waiting_reaches submitted ready inside clock
    have whole : Time.Whole w₁.now := lasted ▸ h.whole.add_mul h.convergence _
    have stops := checks_break h.serves h.narrow.2 h.worker (fun a shown => ?_)
      p.cluster.ordinalsDescending_nodup
      (fun o member => Cluster.mem_ordinalsDescending.1 member) whole (lasted ▸ clock)
      (state.symm ▸ h.fresh) (fun _ _ => rfl) r₁
    · exact waits.breaks (stops.append _)
    · rw [lasted]
      exact never k d j a submitted ready inside fun o below =>
        shown o (Cluster.mem_ordinalsDescending.2 below)
  · refine (h.waiting_breaks fun k d j submitted ready inside => ?_).append _
    exact Nat.le_of_not_lt fun clock => timely ⟨k, d, j, submitted, ready, inside, clock⟩

end Rehearsed

/-- A run passes if its steps do, and its clean-up takes no time. -/
theorem run_ends {outcome : Except Failure Unit} {r' : Report} {w' : World (MemoryStore × τ)}
    (valid : p.validate = .ok ())
    (ran : ((takeAll (MemoryStore.backend e) t (steps p s)).run {}).run w =
      ((.ok outcome, r'), w')) :
    ∃ report after, (run (MemoryStore.backend e) t s p).run w = (.ok report, after) ∧
      (report.passed = true ↔ outcome = .ok ()) ∧ after.now = w'.now := by
  obtain ⟨_, -, taken, -, recorded⟩ := takeAll_acts (MemoryStore.backend e) t (steps p s) {} w
  rw [ran] at recorded
  have unfailed : r'.failure = none := congrArg Report.failure recorded
  obtain ⟨cleaned, m', -, finishes⟩ := finish_atOnce outcome w'.state.1 unfailed
  have drives : ((drive (MemoryStore.backend e) t s p).run {}).run w = ((.ok outcome, r'), w') := by
    rw [drive, valid]
    exact ran
  have whole : (run (MemoryStore.backend e) t s p).run w =
      (.ok ((r'.conclude outcome).recordDeletions cleaned), w'.passing cleaned m') := by
    rw [run_eq, Sim.run_bind_of drives]
    dsimp only
    rw [Sim.run_bind_of (finishes τ e w' rfl)]
    rfl
  exact ⟨_, _, whole, conclude_passed r' outcome cleaned, rfl⟩

/-- No run passes whose steps do not. -/
theorem run_breaks (valid : p.validate = .ok ())
    (stops : Breaks (MemoryStore.backend e) t (steps p s) {} w) {report : Report}
    (reported : ((run (MemoryStore.backend e) t s p).run w).1 = .ok report) :
    report.passed = false := by
  obtain ⟨ended, r', w', ran, stops⟩ := stops
  cases ended with
  | error panic =>
    have drives : ((drive (MemoryStore.backend e) t s p).run {}).run w =
        ((.error panic, r'), w') := by
      rw [drive, valid]
      exact ran
    rw [run_eq, Sim.run_bind_of drives] at reported
    cases reported
  | ok outcome =>
    obtain ⟨_, _, came, passed, -⟩ := run_ends valid ran
    rw [came] at reported
    cases reported
    rw [← Bool.not_eq_true, passed]
    rintro rfl
    exact stops rfl

theorem Timely.submitted (h : Timely t s p script outcomes j₁ j₂ a) :
    ∃ k d j, Submitted t s p script k d ∧ ReadyAfter p script k j ∧ j ≤ t.convergence.slots ∧
      d + j = j₁ + j₂ := by
  have ready : ReadyAfter p script 0 j₁ := by simpa [ReadyAfter] using h.first
  have second := h.second
  -- The waits share a script: the second goes on after the `j₁ + 1` reads of the first.
  cases waits : s.waitBeforeDependents with
  | true =>
    rw [if_pos waits] at second
    exact ⟨j₁ + 1, j₁, j₂, .waiting waits ready h.inside.1, second, h.inside.2, rfl⟩
  | false =>
    rw [if_neg (by simp [waits])] at second
    exact ⟨0, 0, j₁, .straight waits, ready, h.inside.1, by omega⟩

theorem Submitted.timely (h : Submitted t s p script k d) (ready : ReadyAfter p script k j)
    (inside : j ≤ t.convergence.slots)
    (shown : ∀ o < p.cluster.replicas, ShownAfter p outcomes o (a o) ∧ a o ≤ t.worker.slots) :
    ∃ j₁ j₂, Timely t s p script outcomes j₁ j₂ a ∧ d + j = j₁ + j₂ := by
  cases h with
  | waiting waits first early =>
    refine ⟨d, j, ⟨by simpa [ReadyAfter] using first, ?_, ⟨early, inside⟩, shown⟩, rfl⟩
    rw [if_pos waits]
    exact ready
  | straight hastes =>
    refine ⟨j, 0, ⟨by simpa [ReadyAfter] using ready, ?_, ⟨inside, Nat.zero_le _⟩, shown⟩,
      Nat.add_comm 0 j⟩
    rw [if_neg (by simp [hastes])]

theorem ordinals_sum (p : Plan) (a : Nat → Nat) :
    (p.cluster.ordinalsDescending.map a).sum = ((List.range p.cluster.replicas).map a).sum := by
  rw [Cluster.ordinalsDescending, List.map_reverse, List.sum_reverse]

theorem Rehearsed.passes (h : Rehearsed e t s p script outcomes asked w)
    (timely : Timely t s p script outcomes j₁ j₂ a)
    (clock : w.now + Timing.lasts t p j₁ j₂ a < Time.limit) :
    ∃ report after, (run (MemoryStore.backend e) t s p).run w = (.ok report, after) ∧
      report.passed = true ∧ after.now = w.now + Timing.lasts t p j₁ j₂ a := by
  obtain ⟨k, d, j, submitted, ready, inside, total⟩ := timely.submitted
  have lasts : w.now + Timing.lasts t p j₁ j₂ a = w.now + t.convergence.interval.nanos * (d + j)
      + t.worker.interval.nanos * (p.cluster.ordinalsDescending.map a).sum := by
    rw [Timing.lasts, total, ordinals_sum, Nat.add_assoc]
  obtain ⟨r', w', reaches, lasted⟩ :=
    h.steps_reach submitted ready inside timely.shown (lasts ▸ clock)
  obtain ⟨report, after, came, passed, ended⟩ := run_ends h.valid reaches
  exact ⟨report, after, came, passed.2 rfl, ended.trans (lasted.trans lasts.symm)⟩

/-- If no waits are timely that end before the clock does, some step ends the run. -/
theorem Rehearsed.fails (h : Rehearsed e t s p script outcomes asked w)
    (late : ∀ j₁ j₂ a, Timely t s p script outcomes j₁ j₂ a →
      Time.limit ≤ w.now + Timing.lasts t p j₁ j₂ a) {report : Report}
    (reported : ((run (MemoryStore.backend e) t s p).run w).1 = .ok report) :
    report.passed = false := by
  refine run_breaks h.valid (h.steps_break fun k d j a submitted ready inside shown => ?_) reported
  obtain ⟨j₁, j₂, timely, total⟩ := submitted.timely ready inside shown
  have beyond := late j₁ j₂ a timely
  rwa [Timing.lasts, ← total, ← ordinals_sum, ← Nat.add_assoc] at beyond

/-- Whether such a run passes, and how long it takes then, is settled by the script and the
outcomes: all waits have to be timely, and to be over before the clock ends. -/
theorem run_rollout (h : Rehearsed e t s p script outcomes asked w) :
    let ended := (run (MemoryStore.backend e) t s p).run w
    ((∃ report, ended.1 = .ok report ∧ report.passed = true) ↔
        ∃ j₁ j₂ a, Timely t s p script outcomes j₁ j₂ a ∧
          w.now + Timing.lasts t p j₁ j₂ a < Time.limit) ∧
      ∀ j₁ j₂ a, Timely t s p script outcomes j₁ j₂ a →
        w.now + Timing.lasts t p j₁ j₂ a < Time.limit →
          ended.2.now = w.now + Timing.lasts t p j₁ j₂ a := by
  intro ended
  refine ⟨⟨?timely, ?passes⟩, fun _ _ _ timely clock => ?lasts⟩
  case passes =>
    rintro ⟨_, _, _, timely, clock⟩
    obtain ⟨report, _, came, passed, -⟩ := h.passes timely clock
    exact ⟨report, congrArg Prod.fst came, passed⟩
  case timely =>
    rintro ⟨report, reported, passed⟩
    apply Classical.byContradiction
    intro late
    refine absurd (h.fails (fun j₁ j₂ a timely => ?_) reported) (by simp [passed])
    exact Nat.le_of_not_lt fun clock => late ⟨j₁, j₂, a, timely, clock⟩
  case lasts =>
    obtain ⟨_, after, came, -, lasted⟩ := h.passes timely clock
    rwa [show ended = _ from came]

end Runs

/-! ### A rollout that takes a while -/

/-- A session that lists the queues of the address rollout. -/
def listing : Exec.Session where
  stdout := some { chunks := [(0, Text.utf8 "myQueue0 myQueue1 myQueue2 myQueue3 myQueue4")] }

theorem listing_shows : listing.output.Shows (Plan.addressRollout "broker").markers := by
  refine ⟨rfl, fun m member => ?_⟩
  rw [← Text.occursIn_iff]
  revert m
  decide +kernel

/-- Commands that fail the first time. -/
def secondTry (worker : String) (tries : Nat) : Except Exec.Error Exec.Session :=
  if tries = 0 then .error (.setup worker "not yet") else .ok listing

/-- An endpoint that counts how often it got each request. -/
def secondTryEndpoint : Exec.Endpoint (Exec.Request → Nat) where
  openSession request _ tries := {
    answer := secondTry request.worker (tries request)
    state := fun r => if r = request then tries r + 1 else tries r }

theorem secondTry_serves (p : Plan) : secondTryEndpoint.Serves p
    (fun o => secondTry (p.cluster.workerName o))
    fun counts tries => ∀ o, tries (p.workerRequest o) = counts o where
  replies {counts tries} o now state _ := by
    refine ⟨congrArg (secondTry _) (state o), rfl, fun o' => ?_⟩
    show (if p.workerRequest o' = p.workerRequest o then tries (p.workerRequest o') + 1
      else tries (p.workerRequest o')) = if o' = o then counts o' + 1 else counts o'
    rw [state o']
    by_cases same : o' = o
    · rw [same, if_pos rfl, if_pos rfl]
    · rw [if_neg same, if_neg fun equal => same (p.workerRequest_injective equal)]
  brief o k session came := by
    unfold secondTry at came
    split at came <;> cases came
    rfl

theorem secondTry_shown (worker : String) :
    First (fun k => (Exec.Output.ofOpening (secondTry worker k)).Shows
      (Plan.addressRollout "broker").markers) 1 := by
  refine ⟨listing_shows, fun k less shows => ?_⟩
  obtain rfl : k = 0 := by omega
  cases shows.1

/-- The outcomes of each worker of the address rollout. -/
def secondTries (ordinal : Nat) : Nat → Except Exec.Error Exec.Session :=
  secondTry ((Plan.addressRollout "broker").cluster.workerName ordinal)

/-- No worker was asked yet, and the cluster is ready at the second look. -/
def secondTryWorld : World (MemoryStore × (Exec.Request → Nat)) :=
  { state := (MemoryStore.empty.scriptRollout (Plan.addressRollout "broker").cluster.ref [0, 5],
      fun _ => 0) }

/-- The address rollout is rehearsed in these windows. -/
abbrev SecondTry (t : Timing) : Prop :=
  Rehearsed secondTryEndpoint t .live (Plan.addressRollout "broker") ⟨[0, 5]⟩ secondTries
    (fun counts tries => ∀ o, tries ((Plan.addressRollout "broker").workerRequest o) = counts o)
    secondTryWorld

theorem secondTry_rehearsed {t : Timing} (narrow : t.convergence.Narrow ∧ t.worker.Narrow)
    (convergence : Time.Whole t.convergence.interval.nanos)
    (worker : Time.Whole t.worker.interval.nanos) : SecondTry t where
  valid := rfl
  live := rfl
  free := fun _ _ => ⟨rfl, rfl⟩
  armed := rfl
  nonempty := by simp
  serves := secondTry_serves _
  fresh := fun _ => rfl
  clock := by decide
  whole := Nat.dvd_zero _
  narrow := narrow
  convergence := convergence
  worker := worker

theorem secondTry_timely {t : Timing} (inside : 1 ≤ t.convergence.slots)
    (shown : 1 ≤ t.worker.slots) :
    Timely t .live (Plan.addressRollout "broker") ⟨[0, 5]⟩ secondTries 1 0 fun _ => 1 where
  first := by
    refine ⟨rfl, fun k less found => ?_⟩
    obtain rfl : k = 0 := by omega
    cases found
  second := ⟨rfl, fun k less => absurd less (Nat.not_lt_zero k)⟩
  inside := ⟨inside, Nat.zero_le _⟩
  shown := fun o _ => ⟨secondTry_shown _, shown⟩

theorem brief_rehearsed : SecondTry .brief :=
  secondTry_rehearsed ⟨by decide, by decide⟩ (Time.whole_ofMillis 1000) (Time.whole_ofMillis 1000)

theorem brief_timely :
    Timely .brief .live (Plan.addressRollout "broker") ⟨[0, 5]⟩ secondTries 1 0 fun _ => 1 :=
  secondTry_timely (by decide) (by decide)

/-- A live run that passes. -/
theorem secondTry_passes : ∃ report,
    ((run (MemoryStore.backend secondTryEndpoint) .brief .live (Plan.addressRollout "broker")).run
      secondTryWorld).1 = .ok report ∧ report.passed = true := by
  obtain ⟨report, _, came, passed, -⟩ := brief_rehearsed.passes brief_timely (by decide)
  exact ⟨report, congrArg Prod.fst came, passed⟩

/-- Five workers that are ready at the second look and listen at the second command take six
seconds. -/
theorem run_rollout_secondTry :
    let p := Plan.addressRollout "broker"
    let ended := (run (MemoryStore.backend secondTryEndpoint) .brief .live p).run secondTryWorld
    SecondTry .brief ∧ (∃ report, ended.1 = .ok report ∧ report.passed = true) ∧
      ended.2.now = 6 * Time.perSecond := by
  intro p ended
  obtain ⟨passes, lasts⟩ := run_rollout brief_rehearsed
  have clock : secondTryWorld.now + Timing.lasts .brief p 1 0 (fun _ => 1) < Time.limit := by decide
  refine ⟨brief_rehearsed, passes.2 ⟨1, 0, _, brief_timely, clock⟩, ?_⟩
  exact (lasts 1 0 _ brief_timely clock).trans (by decide)

/-- With a look each `2 ^ 63` seconds the cluster would be ready at the second, inside the window. No
clock reaches it, and the run panics. -/
theorem run_rollout_endless :
    let endless : Duration := ⟨Time.limit, by decide⟩
    let t : Timing := { Timing.brief with convergence := ⟨endless, endless, by decide⟩ }
    let p := Plan.addressRollout "broker"
    SecondTry t ∧ Timely t .live p ⟨[0, 5]⟩ secondTries 1 0 (fun _ => 1) ∧
      ((run (MemoryStore.backend secondTryEndpoint) t .live p).run secondTryWorld).1 =
        .error .instant := by
  intro endless t p
  have interval : Time.Whole t.convergence.interval.nanos := Nat.dvd_of_mod_eq_zero (by decide)
  exact ⟨secondTry_rehearsed ⟨by decide, by decide⟩ interval (Time.whole_ofMillis 1000),
    secondTry_timely (by decide) (by decide), by decide +kernel⟩

end BrokerRollout.Scenario
