import BrokerRollout.Proofs.Punctual
import Mathlib.Algebra.GroupWithZero.Nat

/-!
# The stages of a live run

Steps are taken one after the other, and either lead on (`Reaches`) or end the run (`Breaks`), be it
by a failure or a panic. For each stage of a live run over a scripted rollout there is one lemma of
either kind: waiting for the cluster, submitting its dependents, and checking workers.
-/

namespace BrokerRollout.Scenario

variable {σ τ : Type}

/-! ### Steps that lead on, and steps that end a run -/

section Chain

variable {b : Backend σ} {t : Timing} {first second : List Step} {r r' r'' : Report}
  {w w' w'' : World σ}

/-- The steps succeed one after the other, and lead from `w` to `w'`. -/
def Reaches (b : Backend σ) (t : Timing) (steps : List Step) (r : Report) (w : World σ) (r' : Report)
    (w' : World σ) : Prop :=
  ((takeAll b t steps).run r).run w = ((.ok (.ok ()), r'), w')

/-- One of the steps does not succeed. -/
def Breaks (b : Backend σ) (t : Timing) (steps : List Step) (r : Report) (w : World σ) : Prop :=
  ∃ ended r' w', ((takeAll b t steps).run r).run w = ((ended, r'), w') ∧ ended ≠ .ok (.ok ())

theorem Reaches.append (before : Reaches b t first r w r' w')
    (after : Reaches b t second r' w' r'' w'') : Reaches b t (first ++ second) r w r'' w'' := by
  rw [Reaches, takeAll_append, StateT.run_bind, Sim.run_bind_of before]
  exact after

theorem Reaches.breaks (before : Reaches b t first r w r' w') (after : Breaks b t second r' w') :
    Breaks b t (first ++ second) r w := by
  rw [Breaks, takeAll_append, StateT.run_bind, Sim.run_bind_of before]
  exact after

theorem Breaks.append (before : Breaks b t first r w) (second : List Step) :
    Breaks b t (first ++ second) r w := by
  obtain ⟨ended, r', w', ran, stops⟩ := before
  rw [Breaks, takeAll_append, StateT.run_bind, Sim.run_bind_of ran]
  rcases ended with panic | failure | ⟨⟩
  · exact ⟨_, r', w', rfl, stops⟩
  · exact ⟨_, r', w', rfl, stops⟩
  · exact absurd rfl stops

theorem waited_ne {ε α : Type} {fail : Exhausted ε → Failure} {ending : Poll.Ending ε α}
    (vain : ∀ value, ending ≠ .ok (.ok value)) : waited fail ending ≠ .ok (.ok ()) := by
  rcases ending with panic | e | value
  · exact nofun
  · exact nofun
  · exact absurd rfl (vain value)

theorem awaitReady_reaches {cluster : Ref} {expected : Nat} {probe : ReadyProbe}
    {found : Store.Observation}
    (ran : ((Poll.run t.convergence (ReadyProbe.attempt b.store)).run { cluster, expected }).run w =
      ((.ok (.ok found), probe), w')) : Reaches b t [.awaitReady cluster expected] r w r w' := by
  rw [Reaches, takeAll_singleton, take_awaitReady, Sim.run_bind_of ran]
  rfl

theorem awaitReady_breaks {cluster : Ref} {expected : Nat} {probe : ReadyProbe}
    {ending : Poll.Ending NotConverged Store.Observation}
    (ran : ((Poll.run t.convergence (ReadyProbe.attempt b.store)).run { cluster, expected }).run w =
      ((ending, probe), w')) (vain : ∀ found, ending ≠ .ok (.ok found)) :
    Breaks b t [.awaitReady cluster expected] r w := by
  rw [Breaks, takeAll_singleton, take_awaitReady, Sim.run_bind_of ran]
  exact ⟨_, r, w', rfl, waited_ne vain⟩

theorem checkWorker_reaches {request : Exec.Request} {markers : List String} {probe : WorkerProbe}
    {output : Exec.Output}
    (ran : ((Poll.run t.worker (WorkerProbe.attempt b.endpoint)).run { request, markers }).run w =
      ((.ok (.ok output), probe), w')) :
    Reaches b t [.checkWorker request markers] r w ((Step.checkWorker request markers).record r)
      w' := by
  rw [Reaches, takeAll_singleton, take_checkWorker, Sim.run_bind_of ran]
  rfl

theorem checkWorker_breaks {request : Exec.Request} {markers : List String} {probe : WorkerProbe}
    {ending : Poll.Ending WorkerError Exec.Output}
    (ran : ((Poll.run t.worker (WorkerProbe.attempt b.endpoint)).run { request, markers }).run w =
      ((ending, probe), w')) (vain : ∀ output, ending ≠ .ok (.ok output)) :
    Breaks b t [.checkWorker request markers] r w := by
  rw [Breaks, takeAll_singleton, take_checkWorker, Sim.run_bind_of ran]
  exact ⟨_, _, w', rfl, waited_ne vain⟩

end Chain

theorem Immediate.reaches {steps : List Step} {m m' : MemoryStore} {r r' : Report}
    {calls : List Call} (h : Immediate steps m r (.ok ()) r' calls m') (e : Exec.Endpoint τ)
    (t : Timing) {w : World (MemoryStore × τ)} (memory : w.state.1 = m) :
    Reaches (MemoryStore.backend e) t steps r w r' (w.passing calls m') :=
  h τ e t w memory

/-! ### Waiting for the cluster -/

section Waits

variable {t : Timing} {s : Settings} {p : Plan} {script : Script Nat}
  {version k j : Nat} {base : MemoryStore} {w : World (MemoryStore × τ)}

/-- The read that many reads after number `k` is the first to find all workers ready. -/
def ReadyAfter (p : Plan) (script : Script Nat) (k : Nat) : Nat → Prop :=
  First fun i => script.nth? (k + i) = some p.cluster.replicas

theorem awaitWorkers_reaches (e : Exec.Endpoint τ) (nonempty : script.items ≠ [])
    (reading : MemoryStore.AtRead p.cluster script version base k w.state.1)
    (narrow : t.convergence.Narrow) (interval : Time.Whole t.convergence.interval.nanos)
    (whole : Time.Whole w.now) (ready : ReadyAfter p script k j) (inside : j ≤ t.convergence.slots)
    (clock : w.now + t.convergence.interval.nanos * j < Time.limit) (r : Report) :
    ∃ w', Reaches (MemoryStore.backend e) t [awaitWorkers p] r w r w' ∧
      w'.now = w.now + t.convergence.interval.nanos * j ∧
      MemoryStore.AtRead p.cluster script version base (k + (j + 1)) w'.state.1 ∧
      w'.state.2 = w.state.2 := by
  let probe : ReadyProbe := { cluster := p.cluster.ref, expected := p.cluster.replicas }
  obtain ⟨value, probe, w', ran, lasted, -, reading, kept⟩ :=
    Poll.run_first (m := probe) (ReadyProbe.attempt_plays nonempty k p.cluster.replicas w.state.2)
      narrow interval whole ⟨⟨rfl, rfl⟩, reading, rfl⟩
      ((First.congr fun i => ReadyProbe.judge_scripted nonempty).2 ready) inside clock
  exact ⟨w', awaitReady_reaches ran, lasted, reading, kept⟩

theorem awaitWorkers_breaks (e : Exec.Endpoint τ) (nonempty : script.items ≠ [])
    (reading : MemoryStore.AtRead p.cluster script version base k w.state.1)
    (narrow : t.convergence.Narrow) (interval : Time.Whole t.convergence.interval.nanos)
    (whole : Time.Whole w.now) (clock : w.now < Time.limit)
    (never : ∀ j, ReadyAfter p script k j → j ≤ t.convergence.slots →
      Time.limit ≤ w.now + t.convergence.interval.nanos * j) (r : Report) :
    Breaks (MemoryStore.backend e) t [awaitWorkers p] r w := by
  let probe : ReadyProbe := { cluster := p.cluster.ref, expected := p.cluster.replicas }
  have unready : ∀ i ≤ t.convergence.slots, Poll.Reached t.convergence w.now i →
      script.nth? (k + i) ≠ some p.cluster.replicas := by
    intro i inside reached found
    obtain ⟨j, early, ready⟩ :=
      First.exists_le (P := fun i => script.nth? (k + i) = some p.cluster.replicas) found
    exact absurd (reached.mono early) (Nat.not_lt.2 (never j ready (Nat.le_trans early inside)))
  obtain ⟨ending, probe, w', ran, vain⟩ :=
    Poll.run_never (m := probe) (ReadyProbe.attempt_plays nonempty k p.cluster.replicas w.state.2)
      narrow interval whole clock ⟨⟨rfl, rfl⟩, reading, rfl⟩
      fun i inside reached found => unready i inside reached
        ((ReadyProbe.judge_scripted nonempty).1 found)
  exact awaitReady_breaks ran vain

/-! ### Submission -/

/-- The resources that are submitted after the cluster. -/
def dependentResources (p : Plan) : List Resource :=
  p.security.toList.map .security ++ p.addresses.map .address

theorem dependents_apart (distinct : (p.resources.map Resource.ref).Nodup) :
    ∀ q ∈ dependentResources p, q.ref ∉ [p.cluster.ref] := by
  intro q member clash
  have equal : q.ref = p.cluster.ref := List.mem_singleton.1 clash
  have listed : q.ref ∈ (dependentResources p).map Resource.ref := List.mem_map_of_mem member
  rw [equal] at listed
  exact (List.nodup_cons.1 distinct).1 listed

theorem cluster_reaches (e : Exec.Endpoint τ) (t : Timing)
    (clear : w.state.1.obstacle? p.cluster.ref = none)
    (armed : w.state.1.rollouts.get? p.cluster.ref = some script) (r : Report) :
    ∃ r' w' version, Reaches (MemoryStore.backend e) t [.submit (.cluster p.cluster)] r w r' w' ∧
      w'.now = w.now ∧ w'.state.2 = w.state.2 ∧ w.state.1.SameBut [p.cluster.ref] w'.state.1 ∧
      MemoryStore.AtRead p.cluster script version w'.state.1 0 w'.state.1 := by
  have submits := submit_clear (q := .cluster p.cluster) clear r
  have stored := MemoryStore.get?_holding w.state.1 (.cluster p.cluster)
  refine ⟨_, _, _, submits.reaches e t rfl, rfl, rfl, .holding _ (.cluster p.cluster), ⟨0, stored⟩,
    ⟨script, armed, fun n => ?_⟩, .refl _ _⟩
  rw [Nat.zero_add]

theorem dependents_reaches (e : Exec.Endpoint τ) (t : Timing)
    (distinct : (p.resources.map Resource.ref).Nodup)
    (clear : ∀ q ∈ dependentResources p, w.state.1.obstacle? q.ref = none)
    (reading : MemoryStore.AtRead p.cluster script version base k w.state.1) (r : Report) :
    ∃ r' w', Reaches (MemoryStore.backend e) t (dependents p ++ [.enter .submitted]) r w r' w' ∧
      w'.now = w.now ∧ w'.state.2 = w.state.2 ∧
      MemoryStore.AtRead p.cluster script version w'.state.1 k w'.state.1 := by
  obtain ⟨foreign, distinct⟩ := List.nodup_cons.1 distinct
  obtain ⟨calls, m', submits, -, same⟩ := submit_all distinct clear r
  have enters := submits.append (enter_immediate .submitted m' _)
  rw [dependents_eq]
  refine ⟨_, _, enters.reaches e t rfl, rfl, rfl, ?_, ?_, .refl _ _⟩
  · obtain ⟨ready, stored⟩ := reading.stored
    exact ⟨ready, (same.resources _ foreign).trans stored⟩
  · obtain ⟨rest, armed, follows⟩ := reading.script
    exact ⟨rest, (same.rollouts _ foreign).trans armed, follows⟩

/-- Submission takes this many reads of the cluster, and this many intervals. -/
inductive Submitted (t : Timing) (s : Settings) (p : Plan) (script : Script Nat) : Nat → Nat → Prop
    where
  | waiting {j : Nat} (waits : s.waitBeforeDependents = true) (ready : ReadyAfter p script 0 j)
      (inside : j ≤ t.convergence.slots) : Submitted t s p script (j + 1) j
  | straight (hastes : s.waitBeforeDependents = false) : Submitted t s p script 0 0

end Waits

/-! ### Checking workers -/

section Checks

variable {e : Exec.Endpoint τ} {t : Timing} {p : Plan} {ordinal : Nat} {ordinals : List Nat}
  {outcomes : Nat → Nat → Except Exec.Error Exec.Session} {asked : (Nat → Nat) → τ → Prop}
  {counts a : Nat → Nat} {w : World (MemoryStore × τ)}

/-- The command in a worker that is the first to succeed and to show all queues. -/
def ShownAfter (p : Plan) (outcomes : Nat → Nat → Except Exec.Error Exec.Session)
    (ordinal : Nat) : Nat → Prop :=
  First fun k => (Exec.Output.ofOpening (outcomes ordinal k)).Shows p.markers

theorem counts_reset (fresh : counts ordinal = 0) :
    (fun o => if o = ordinal then 0 else counts o) = counts := by
  funext o
  split
  case isTrue same => rw [same, fresh]
  case isFalse => rfl

theorem counts_still {n : Nat} (new : ordinal ∉ ordinals) (fresh : ∀ o ∈ ordinals, counts o = 0) :
    ∀ o ∈ ordinals, (if o = ordinal then n else counts o) = 0 := by
  intro o member
  have other : o ≠ ordinal := fun same => new (same ▸ member)
  rw [if_neg other, fresh o member]

theorem check_reaches (serves : e.Serves p outcomes asked) (narrow : t.worker.Narrow)
    (interval : Time.Whole t.worker.interval.nanos) (whole : Time.Whole w.now)
    (below : ordinal < p.cluster.replicas) (state : asked counts w.state.2)
    (fresh : counts ordinal = 0) {n : Nat} (shown : ShownAfter p outcomes ordinal n)
    (inside : n ≤ t.worker.slots) (clock : w.now + t.worker.interval.nanos * n < Time.limit)
    (r : Report) :
    ∃ r' w', Reaches (MemoryStore.backend e) t [check p ordinal] r w r' w' ∧
      w'.now = w.now + t.worker.interval.nanos * n ∧
      asked (fun o => if o = ordinal then n + 1 else counts o) w'.state.2 := by
  let probe : WorkerProbe := { request := p.workerRequest ordinal, markers := p.markers }
  obtain ⟨value, _, w', ran, lasted, -, -, next⟩ :=
    Poll.run_first (m := probe) (WorkerProbe.attempt_plays serves w.state.1 counts below)
      narrow interval whole ⟨⟨rfl, rfl⟩, rfl, (counts_reset fresh).symm ▸ state⟩
      ((First.congr fun _ => WorkerProbe.judge_ok_iff).2 shown) inside clock
  exact ⟨_, w', checkWorker_reaches ran, lasted, next⟩

theorem check_breaks (serves : e.Serves p outcomes asked) (narrow : t.worker.Narrow)
    (interval : Time.Whole t.worker.interval.nanos) (whole : Time.Whole w.now)
    (clock : w.now < Time.limit) (below : ordinal < p.cluster.replicas)
    (state : asked counts w.state.2) (fresh : counts ordinal = 0)
    (never : ∀ n, ShownAfter p outcomes ordinal n → n ≤ t.worker.slots →
      Time.limit ≤ w.now + t.worker.interval.nanos * n)
    (r : Report) : Breaks (MemoryStore.backend e) t [check p ordinal] r w := by
  let probe : WorkerProbe := { request := p.workerRequest ordinal, markers := p.markers }
  have hidden : ∀ k ≤ t.worker.slots, Poll.Reached t.worker w.now k →
      ¬(Exec.Output.ofOpening (outcomes ordinal k)).Shows p.markers := by
    intro k inside reached shows
    obtain ⟨n, early, shown⟩ := First.exists_le
      (P := fun k => (Exec.Output.ofOpening (outcomes ordinal k)).Shows p.markers) shows
    exact absurd (reached.mono early) (Nat.not_lt.2 (never n shown (Nat.le_trans early inside)))
  obtain ⟨ending, _, w', ran, vain⟩ :=
    Poll.run_never (m := probe) (WorkerProbe.attempt_plays serves w.state.1 counts below)
      narrow interval whole clock ⟨⟨rfl, rfl⟩, rfl, (counts_reset fresh).symm ▸ state⟩
      fun k inside reached found => hidden k inside reached (WorkerProbe.judge_ok_iff.1 found)
  exact checkWorker_breaks ran vain

theorem add_sum_cons (now interval ordinal : Nat) (ordinals : List Nat) (a : Nat → Nat) :
    now + interval * ((ordinal :: ordinals).map a).sum =
      now + interval * a ordinal + interval * (ordinals.map a).sum := by
  rw [List.map_cons, List.sum_cons, Nat.mul_add, Nat.add_assoc]

theorem checks_reach (serves : e.Serves p outcomes asked) (narrow : t.worker.Narrow)
    (interval : Time.Whole t.worker.interval.nanos)
    (shown : ∀ o ∈ ordinals, ShownAfter p outcomes o (a o) ∧ a o ≤ t.worker.slots)
    (distinct : ordinals.Nodup) (below : ∀ o ∈ ordinals, o < p.cluster.replicas)
    (whole : Time.Whole w.now)
    (clock : w.now + t.worker.interval.nanos * (ordinals.map a).sum < Time.limit)
    (state : asked counts w.state.2) (fresh : ∀ o ∈ ordinals, counts o = 0) (r : Report) :
    ∃ r' w', Reaches (MemoryStore.backend e) t (ordinals.map (check p)) r w r' w' ∧
      w'.now = w.now + t.worker.interval.nanos * (ordinals.map a).sum := by
  -- `counts` changes with every check; that workers still to be checked count zero carries over.
  induction ordinals generalizing r w counts with
  | nil => exact ⟨r, w, rfl, rfl⟩
  | cons ordinal ordinals ih =>
    obtain ⟨new, distinct⟩ := List.nodup_cons.1 distinct
    obtain ⟨⟨first, inside⟩, shown⟩ := List.forall_mem_cons.1 shown
    obtain ⟨least, below⟩ := List.forall_mem_cons.1 below
    obtain ⟨unasked, fresh⟩ := List.forall_mem_cons.1 fresh
    rw [add_sum_cons] at clock ⊢
    obtain ⟨r₁, w₁, passes, lasted, next⟩ := check_reaches serves narrow interval whole least state
      unasked first inside (Nat.lt_of_le_of_lt (Nat.le_add_right ..) clock) r
    obtain ⟨r', w', rest, ended⟩ := ih shown distinct below (lasted ▸ whole.add_mul interval _)
      (lasted ▸ clock) next (counts_still new fresh) r₁
    exact ⟨r', w', passes.append rest, ended.trans (lasted ▸ rfl)⟩

theorem checks_break (serves : e.Serves p outcomes asked) (narrow : t.worker.Narrow)
    (interval : Time.Whole t.worker.interval.nanos)
    (never : ∀ a : Nat → Nat, (∀ o ∈ ordinals, ShownAfter p outcomes o (a o) ∧ a o ≤ t.worker.slots) →
      Time.limit ≤ w.now + t.worker.interval.nanos * (ordinals.map a).sum)
    (distinct : ordinals.Nodup) (below : ∀ o ∈ ordinals, o < p.cluster.replicas)
    (whole : Time.Whole w.now) (clock : w.now < Time.limit) (state : asked counts w.state.2)
    (fresh : ∀ o ∈ ordinals, counts o = 0) (r : Report) :
    Breaks (MemoryStore.backend e) t (ordinals.map (check p)) r w := by
  induction ordinals generalizing r w counts with
  | nil => exact absurd clock (Nat.not_lt.2 (never (fun _ => 0) nofun))
  | cons ordinal ordinals ih =>
    obtain ⟨new, distinct⟩ := List.nodup_cons.1 distinct
    obtain ⟨least, below⟩ := List.forall_mem_cons.1 below
    obtain ⟨unasked, fresh⟩ := List.forall_mem_cons.1 fresh
    -- If this worker is checked in time, one that is not is among the others.
    by_cases timely : ∃ n, ShownAfter p outcomes ordinal n ∧ n ≤ t.worker.slots ∧
      w.now + t.worker.interval.nanos * n < Time.limit
    · obtain ⟨n, first, inside, reached⟩ := timely
      obtain ⟨r₁, w₁, passes, lasted, next⟩ :=
        check_reaches serves narrow interval whole least state unasked first inside reached r
      have later (a : Nat → Nat)
          (shown : ∀ o ∈ ordinals, ShownAfter p outcomes o (a o) ∧ a o ≤ t.worker.slots) :
          Time.limit ≤ w₁.now + t.worker.interval.nanos * (ordinals.map a).sum := by
        let all (o : Nat) := if o = ordinal then n else a o
        have here : all ordinal = n := if_pos rfl
        have others : ∀ o ∈ ordinals, all o = a o := by
          intro o member
          have apart : o ≠ ordinal := fun same => new (same ▸ member)
          exact if_neg apart
        have shown : ∀ o ∈ ordinal :: ordinals,
            ShownAfter p outcomes o (all o) ∧ all o ≤ t.worker.slots := by
          refine List.forall_mem_cons.2 ⟨here.symm ▸ ⟨first, inside⟩, fun o member => ?_⟩
          rw [others o member]
          exact shown o member
        have late := never all shown
        rwa [add_sum_cons, here, List.map_congr_left others, ← lasted] at late
      have stops := ih later distinct below (lasted ▸ whole.add_mul interval _) (lasted ▸ reached)
        next (counts_still new fresh) r₁
      exact passes.breaks stops
    · refine (check_breaks serves narrow interval whole clock least state unasked ?_ r).append _
      intro n shown inside
      exact Nat.le_of_not_lt fun reached => timely ⟨n, shown, inside, reached⟩

end Checks

end BrokerRollout.Scenario
