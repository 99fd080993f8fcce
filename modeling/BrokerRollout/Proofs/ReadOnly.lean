import BrokerRollout.Proofs.MemoryCalls
import BrokerRollout.Proofs.Tries

/-!
# Probes read only

A probe makes one call in each attempt, the same one every time, and it is no creation and no
deletion. A store in memory counts the reads and moves on in the script of the resource that is read;
all else in it stays. Main statement: `probes_read_only`.
-/

namespace BrokerRollout

variable {σ τ π ε α : Type}

/-! ### Calls -/

theorem WorkerProbe.attempt_attempts (e : Exec.Endpoint σ) (p : WorkerProbe) (w : World σ) :
    (((attempt e).run p).run w).1.2.attempts = p.attempts + 1 := by
  rw [attempt_run]
  rfl

variable {b : Backend σ} {attempt : Probing π σ (Except ε α)} {ask : π → Ask}

/-- The calls of a probe, whatever is done with it: one in each attempt, and always the same. -/
structure OneCallEach (attempt : Probing π σ (Except ε α)) (ask : π → Ask) : Prop where
  single : ∀ p w, ∃ c, (attempt.run p).callsOf w = [c] ∧ c.ask = ask p
  poll : ∀ window p w e, let poll := (Poll.run window attempt).run p
    (poll.run w).1.1 = .ok (.error e) → e.attempts = (poll.callsOf w).length
  uses : ∀ uses p w, let used := (Use.all attempt uses).run p
    ∃ tries, Tries attempt p w tries (used.run w).1.2 (used.run w).2 ∧
      used.callsOf w = tries.flatten ∧ OneEach (ask p) tries

theorem Probing.Asks.oneCallEach (asks : Probing.Asks b attempt ask) : OneCallEach attempt ask where
  single p w := ((asks p).callsOf w).1
  poll window p w e := by
    intro poll failed
    obtain ⟨⟨⟨ending, p'⟩, w'⟩, ran⟩ : ∃ out, poll.run w = out := ⟨_, rfl⟩
    obtain ⟨tries, made, count⟩ := Poll.run_tries ran
    obtain ⟨past, one⟩ := made.asks asks
    rw [ran] at failed
    rw [count e failed, Sim.callsOf_of_run ran past, one.length_flatten]
  uses uses p w := by
    obtain ⟨tries, made, past, one⟩ := asks.all_tries uses p w
    exact ⟨tries, made, Sim.callsOf_eq past, one⟩

/-! ### What reads leave of a store in memory -/

namespace MemoryStore

variable {m m' m'' : MemoryStore} {ref : Ref} {n k : Nat} {c : Call} {calls : List Call}

/-- The store after `n` reads of a resource: they have changed no more than its ready count and its
script. -/
structure OnlyRead (ref : Ref) (n : Nat) (m m' : MemoryStore) : Prop where
  reads : m'.reads = m.reads + n
  mutations : m'.mutations = m.mutations
  versions : m'.versions = m.versions
  rejections : m'.rejections = m.rejections
  undeletable : m'.undeletable = m.undeletable
  size : m'.size = m.size
  entries : ∀ other, (m'.resources.get? other).map (fun stored => (stored.resource, stored.version)) =
    (m.resources.get? other).map fun stored => (stored.resource, stored.version)
  others : ∀ other ≠ ref, m'.resources.get? other = m.resources.get? other ∧
    m'.rollouts.get? other = m.rollouts.get? other

theorem OnlyRead.refl (ref : Ref) (m : MemoryStore) : OnlyRead ref 0 m m :=
  ⟨rfl, rfl, rfl, rfl, rfl, rfl, fun _ => rfl, fun _ _ => ⟨rfl, rfl⟩⟩

theorem OnlyRead.trans (first : OnlyRead ref n m m') (second : OnlyRead ref k m' m'') :
    OnlyRead ref (n + k) m m'' where
  reads := by rw [second.reads, first.reads, Nat.add_assoc]
  mutations := second.mutations.trans first.mutations
  versions := second.versions.trans first.versions
  rejections := second.rejections.trans first.rejections
  undeletable := second.undeletable.trans first.undeletable
  size := second.size.trans first.size
  entries other := (second.entries other).trans (first.entries other)
  others other apart := ⟨(second.others other apart).1.trans (first.others other apart).1,
    (second.others other apart).2.trans (first.others other apart).2⟩

theorem Answers.onlyRead (h : Answers m c m') (asked : c.ask = .get ref) : OnlyRead ref 1 m m' := by
  cases h with
  | missed => exact ⟨rfl, rfl, rfl, rfl, rfl, rfl, fun _ => rfl, fun _ _ => ⟨rfl, rfl⟩⟩
  | @found read stored there =>
    obtain rfl := Ask.get.inj asked
    refine ⟨rfl, rfl, rfl, rfl, rfl, Table.size_modify .., fun other => ?_, fun other apart => ?_⟩
    · -- The entry that is read gets a new ready count, and no other value.
      by_cases same : other = read
      · subst same
        simp [showing, shown, Table.get?_modify, there]
      · simp [showing, Table.get?_modify, same]
    · simp [showing, Table.get?_modify, apart]
  | created | rejected | collided | deleted | undeleted | contacted => cases asked

theorem Replays.onlyRead (h : Replays m calls m') (asked : ∀ c ∈ calls, c.ask = .get ref) :
    OnlyRead ref calls.length m m' := by
  induction h with
  | done => exact .refl ref _
  | next here _ ih =>
    obtain ⟨first, rest⟩ := List.forall_mem_cons.1 asked
    rw [List.length_cons, Nat.add_comm]
    exact (here.onlyRead first).trans (ih rest)

theorem Replays.unchanged {request : Exec.Request} (h : Replays m calls m')
    (asked : ∀ c ∈ calls, c.ask = .openSession request) : m' = m := by
  refine h.preserved id fun c member _ _ here => ?_
  have opened := asked c member
  cases here with
  | contacted => rfl
  | created | rejected | collided | missed | found | deleted | undeleted => cases opened

/-- Whatever is done with the probe, the store has served as many reads of its resource as attempts
were made. -/
def ReadsOnly (attempt : Probing π (MemoryStore × τ) (Except ε α)) (ref : π → Ref) : Prop :=
  ∀ uses p w, let used := ((Use.all attempt uses).run p).run w
    ∃ tries, Tries attempt p w tries used.1.2 used.2 ∧
      OnlyRead (ref p) tries.length w.state.1 used.2.state.1

theorem readsOnly_of_asks {e : Exec.Endpoint τ} {ref : π → Ref}
    {attempt : Probing π (MemoryStore × τ) (Except ε α)}
    (asks : Probing.Asks (backend e) attempt fun p => .get (ref p)) : ReadsOnly attempt ref := by
  intro uses p w
  obtain ⟨tries, made, past, one⟩ := asks.all_tries uses p w
  refine ⟨tries, made, ?_⟩
  rw [← one.length_flatten]
  exact (replays_of_history past).onlyRead one.ask

end MemoryStore

/-- However a probe is used, each of its attempts makes the same one call, which changes nothing: an
exhausted poll tells how many it made, and the probe of a worker keeps count of all. In a store in
memory they are reads of the one resource, and the probe of a worker does not touch the store. -/
theorem probes_read_only (b : Backend σ) (e : Exec.Endpoint τ) :
    OneCallEach (ReadyProbe.attempt b.store) (fun p => .get p.cluster) ∧
    OneCallEach (PersistedProbe.attempt b.store) (fun p => .get p.ref) ∧
    OneCallEach (WorkerProbe.attempt b.endpoint) (fun p => .openSession p.request) ∧
    (∀ uses p w, let used := (Use.all (WorkerProbe.attempt b.endpoint) uses).run p
      (used.run w).1.2.attempts = p.attempts + (used.callsOf w).length) ∧
    MemoryStore.ReadsOnly (ReadyProbe.attempt (MemoryStore.backend e).store) ReadyProbe.cluster ∧
    MemoryStore.ReadsOnly (PersistedProbe.attempt (MemoryStore.backend e).store) PersistedProbe.ref ∧
    ∀ uses p w, let used := (Use.all (WorkerProbe.attempt (MemoryStore.backend e).endpoint) uses).run p
      (used.run w).2.state.1 = w.state.1 := by
  refine ⟨(ReadyProbe.attempt_asks b).oneCallEach, (PersistedProbe.attempt_asks b).oneCallEach,
    (WorkerProbe.attempt_asks b).oneCallEach, fun uses p w => ?_,
    MemoryStore.readsOnly_of_asks (ReadyProbe.attempt_asks _),
    MemoryStore.readsOnly_of_asks (PersistedProbe.attempt_asks _), fun uses p w => ?_⟩
  · intro used
    obtain ⟨tries, made, past, one⟩ := (WorkerProbe.attempt_asks b).all_tries uses p w
    rw [Sim.callsOf_eq past, one.length_flatten]
    exact made.counted WorkerProbe.attempts (WorkerProbe.attempt_attempts b.endpoint)
  · obtain ⟨tries, -, past, one⟩ := (WorkerProbe.attempt_asks _).all_tries uses p w
    exact (MemoryStore.replays_of_history past).unchanged one.ask

end BrokerRollout
