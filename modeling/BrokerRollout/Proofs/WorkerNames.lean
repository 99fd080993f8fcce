import BrokerRollout.Proofs.Plans
import BrokerRollout.Proofs.RolloutScripts
import BrokerRollout.Proofs.Schedule

/-!
# Workers by their names

A worker's name tells the cluster and the ordinal (`Cluster.workerName_inj`). So the ready workers
of a cluster in memory are as many as it reports, and once these are all of them they are the workers
that a plan verifies, in the opposite order. Main statement: `MemoryStore.workers_named`.
-/

namespace BrokerRollout

variable {τ : Type} {c d : Cluster}

/-! ### Names -/

namespace Cluster

theorem workerNames_nodup (c : Cluster) (n : Nat) : (c.workerNames n).Nodup := by
  unfold workerNames
  apply List.Pairwise.map _ _ List.nodup_range
  intro i j different same
  exact different (workerName_inj.1 same).2

theorem length_workerNames (c : Cluster) (n : Nat) : (c.workerNames n).length = n := by
  unfold workerNames
  rw [List.length_map, List.length_range]

/-- The names of a cluster's workers depend on nothing but its own. -/
theorem workerNames_congr (named : c.name = d.name) : c.workerNames = d.workerNames := by
  funext n
  unfold workerNames
  apply List.map_congr_left
  intro i _
  exact workerName_inj.2 ⟨named, rfl⟩

end Cluster

/-- The workers of a plan, from the one that is verified last. -/
theorem Plan.workers_reverse (p : Plan) :
    (p.cluster.workerNames p.cluster.replicas).reverse =
      p.cluster.ordinalsDescending.map fun ordinal => (p.workerRequest ordinal).worker := by
  unfold Cluster.workerNames Cluster.ordinalsDescending
  rw [← List.map_reverse]
  rfl

/-! ### What is found in memory -/

namespace MemoryStore

variable {m m' : MemoryStore} {done : List Deed} {calls : List Call} {found : Store.Observation}

/-- Calls are deeds too, as far as they are made to the store. -/
theorem Ledger.replays (ledger : Ledger done m) (h : Replays m calls m') :
    ∃ done', Ledger done' m' := by
  induction h generalizing done with
  | done => exact ⟨done, ledger⟩
  | @next m mid m' call calls here later ih =>
    cases call with
    | create => exact ih (ledger.step (.create here))
    | get ref answer =>
      cases here with
      | missed absent => exact ih (ledger.step (.get (.missed absent)))
      | found there => exact ih (ledger.step (.get (.found there)))
    | delete => exact ih (ledger.step (.delete here))
    | openSession =>
      cases here
      exact ih ledger

theorem Ledger.names (ledger : Ledger done m) (c : Cluster) {stored : Stored}
    (held : m.resources.get? c.ref = some stored) :
    stored.observe.ready = c.workerNames stored.ready := by
  have own := ledger.own held
  obtain ⟨spec, same⟩ := Resource.cluster_of_kind (own ▸ rfl : stored.resource.ref.kind = .cluster)
  have named : spec.name = c.name := by
    rw [same] at own
    exact congrArg Ref.name own
  unfold Stored.observe
  rw [same]
  exact congrFun (Cluster.workerNames_congr named) stored.ready

theorem Ledger.reads_names (ledger : Ledger done m)
    (h : Answers m (.get c.ref (.ok (some found))) m') :
    ∃ stored, m'.resources.get? c.ref = some stored ∧ found.ready = c.workerNames stored.ready := by
  have after := ledger.step (.get h)
  cases h with
  | @found _ stored there =>
    have held : (m.showing c.ref stored).resources.get? c.ref = some (m.shown c.ref stored) := by
      simp [showing, Table.get?_modify, there]
    exact ⟨m.shown c.ref stored, held, after.names c held⟩

/-- A read that finds as many workers as a plan wants finds those that it verifies. -/
theorem Ledger.verified (ledger : Ledger done m) (p : Plan)
    (h : Answers m (.get p.cluster.ref (.ok (some found))) m')
    (all : found.readyCount = p.cluster.replicas) :
    found.ready.reverse =
      p.cluster.ordinalsDescending.map fun ordinal => (p.workerRequest ordinal).worker := by
  obtain ⟨stored, -, named⟩ := ledger.reads_names h
  have count : stored.ready = p.cluster.replicas := by
    rw [← all, Store.Observation.readyCount, named, Cluster.length_workerNames]
  rw [named, count, p.workers_reverse]

/-- An attempt that passes is a read that found as many workers as are expected. -/
theorem attempt_reads {e : Exec.Endpoint τ} {world after : World (MemoryStore × τ)}
    {probe probe' : ReadyProbe}
    (ran : ((ReadyProbe.attempt (backend e).store).run probe).run world =
      ((.ok found, probe'), after)) :
    found.readyCount = probe.expected ∧
      ∃ m', Answers world.state.1 (.get probe.cluster (.ok (some found))) m' := by
  obtain ⟨_, past, answer, rfl, result⟩ := ReadyProbe.attempt_acts (backend e) probe world
  rw [ran] at result
  obtain ⟨rfl, all⟩ := ReadyProbe.judge_eq_ok_iff.1 (Prod.mk.inj result).1.symm
  cases replays_of_history past with
  | next here => exact ⟨all, _, here⟩

/-- A poll that passes ends with such a read. -/
theorem poll_reads {e : Exec.Endpoint τ} {w : Window} {world after : World (MemoryStore × τ)}
    {ref : Ref} {expected : Nat} {probe : ReadyProbe} (ledger : Ledger done world.state.1)
    (ran : ((Poll.run w (ReadyProbe.attempt (backend e).store)).run
      { cluster := ref, expected }).run world = ((.ok (.ok found), probe), after)) :
    found.readyCount = expected ∧ ∃ done' mid mid', Ledger done' mid ∧
      Answers mid (.get ref (.ok (some found))) mid' := by
  obtain ⟨calls, past, answers, rfl, ends, -⟩ :=
    Poll.run_acts (ReadyProbe.sampling_describes (backend e) ref expected) w world
  have replays := replays_of_history past
  have memory : (ReadyProbe.sampling ref expected).memory [] = { cluster := ref, expected } := rfl
  rw [memory, ran] at ends
  cases ends with
  | @held vain last _ before bound judged =>
    obtain ⟨rfl, all⟩ := ReadyProbe.judge_eq_ok_iff.1 judged
    rw [List.map_append] at replays
    obtain ⟨mid, first, second⟩ := replays.split
    obtain ⟨done', kept⟩ := ledger.replays first
    cases second with
    | next here => exact ⟨all, done', mid, _, kept, here⟩

/-- Two workers have one name only if they have one ordinal in clusters of one name. In every state
that a history leads to from a new store, a read of a cluster lists different workers, as many as
are then reported; and a probe for all workers of a plan passes, at an attempt or in a poll, only on
those that the plan verifies, in the opposite order. -/
theorem workers_named :
    (∀ {c d : Cluster} {i j : Nat}, c.workerName i = d.workerName j → c.name = d.name ∧ i = j) ∧
    ∀ ops, let m := (run {} ops).2
      (∀ (c : Cluster) found, (m.get c.ref).1 = some found → found.ready.Nodup ∧
        ∃ stored, (m.get c.ref).2.resources.get? c.ref = some stored ∧
          found.ready.length = stored.ready) ∧
      ∀ {τ : Type} (e : Exec.Endpoint τ) (world : World (MemoryStore × τ)), world.state.1 = m →
        ∀ (p : Plan) found probe after,
          let verified :=
            p.cluster.ordinalsDescending.map fun ordinal => (p.workerRequest ordinal).worker
          (∀ last, ((ReadyProbe.attempt (backend e).store).run
              ⟨p.cluster.ref, p.cluster.replicas, last⟩).run world = ((.ok found, probe), after) →
            found.ready.reverse = verified) ∧
          ∀ w, ((Poll.run w (ReadyProbe.attempt (backend e).store)).run
              { cluster := p.cluster.ref, expected := p.cluster.replicas }).run world =
                ((.ok (.ok found), probe), after) →
            found.ready.reverse = verified := by
  refine ⟨Cluster.workerName_inj.1, fun ops => ?_⟩
  intro m
  have ledger : Ledger (deeds {} ops) m := Ledger.empty.run ops
  constructor
  · intro c found read
    have answers := get_answers c.ref m
    rw [read] at answers
    obtain ⟨stored, held, named⟩ := ledger.reads_names answers
    rw [named]
    exact ⟨c.workerNames_nodup stored.ready, stored, held, c.length_workerNames stored.ready⟩
  · intro τ e world state p found probe after verified
    rw [← state] at ledger
    constructor
    · intro last ran
      obtain ⟨all, _, here⟩ := attempt_reads ran
      exact ledger.verified p here all
    · intro w ran
      obtain ⟨all, done', mid, mid', kept, here⟩ := poll_reads ledger ran
      exact kept.verified p here all

/-- The name of a cluster may look like that of a worker; the brokers of the address rollout are
verified from the last to the first. -/
theorem workers_named_rollout :
    let p := Plan.addressRollout "mq"
    let ops := [.create (.cluster p.cluster), .setReady p.cluster.ref 5]
    let world : World (MemoryStore × Unit) := { state := ((run {} ops).2, ()) }
    let c : Cluster := { name := "broker-ss-1", ns := "mq", replicas := 3 }
    let d : Cluster := { name := "broker-ss-1", ns := "test", replicas := 30 }
    c.workerName 20 = d.workerName 20 ∧ c.name = d.name ∧
      ∃ found probe after,
        ((ReadyProbe.attempt (backend .offline).store).run
          { cluster := p.cluster.ref, expected := p.cluster.replicas }).run world =
            ((.ok found, probe), after) ∧
        ((Poll.run Timing.brief.convergence (ReadyProbe.attempt (backend .offline).store)).run
          { cluster := p.cluster.ref, expected := p.cluster.replicas }).run world =
            ((.ok (.ok found), probe), after) ∧
        (world.state.1.get p.cluster.ref).1 = some found ∧ found.ready.Nodup ∧
        found.ready.reverse = ["ex-aao-broker-ss-4", "ex-aao-broker-ss-3", "ex-aao-broker-ss-2",
          "ex-aao-broker-ss-1", "ex-aao-broker-ss-0"] := by
  intro p ops world c d
  obtain ⟨names, states⟩ := workers_named
  obtain ⟨distinct, passes⟩ := states ops
  let found : Store.Observation := ⟨p.cluster.ref, p.cluster.workerNames 5, some "1"⟩
  have read : (world.state.1.get p.cluster.ref).1 = some found := by decide
  obtain ⟨⟨answer, after⟩, looked⟩ :
      ∃ out, (Sim.read (backend .offline).store p.cluster.ref).run world = out := ⟨_, rfl⟩
  obtain rfl : answer = .ok (some found) :=
    (congrArg Prod.fst looked).symm.trans (congrArg Except.ok read)
  have tried : ((ReadyProbe.attempt (backend .offline).store).run
      { cluster := p.cluster.ref, expected := p.cluster.replicas }).run world =
        ((.ok found, ⟨p.cluster.ref, p.cluster.replicas, some 5⟩), after) := by
    rw [ReadyProbe.attempt_run, Sim.run_bind_of looked]
    rfl
  have ran : ((Poll.run Timing.brief.convergence (ReadyProbe.attempt (backend .offline).store)).run
      { cluster := p.cluster.ref, expected := p.cluster.replicas }).run world =
        ((.ok (.ok found), _), after) := Poll.resume_of_ok tried
  have same : c.workerName 20 = d.workerName 20 := by decide
  refine ⟨same, (names same).1, found, _, after, tried, ran, read,
    (distinct p.cluster found read).1, ?_⟩
  rw [(passes .offline world rfl p found _ after).2 Timing.brief.convergence ran]
  decide

end MemoryStore

end BrokerRollout
