import BrokerRollout.Proofs.Capture
import BrokerRollout.Proofs.Immediate
import BrokerRollout.Proofs.PlanBlocks

/-!
# Polls whose attempts take no time

Such a poll succeeds with the first attempt that would, just if the window has a slot for it that a
clock reaches, and then it has lasted as many intervals as attempts were in vain; else it ends with
its last slot, or panics on the way to the first that no clock reaches (`Poll.run_samples`). The
probes of a run make such polls, if reads follow a script and commands are answered at once
(`ReadyProbe.attempt_plays`, `WorkerProbe.attempt_plays`).
-/

namespace BrokerRollout

variable {σ τ π ε α : Type}

/-- The first number with a property. -/
def First (P : Nat → Prop) (n : Nat) : Prop := P n ∧ ∀ k < n, ¬P k

namespace First

variable {P Q : Nat → Prop} {n k : Nat}

theorem unique (h : First P n) (h' : First P k) : n = k := by
  rcases Nat.lt_trichotomy n k with less | same | more
  · exact absurd h.1 (h'.2 n less)
  · exact same
  · exact absurd h'.1 (h.2 k more)

theorem exists_le (h : P n) : ∃ k ≤ n, First P k := by
  induction n using Nat.strongRecOn with
  | ind n ih =>
    by_cases earlier : ∃ k < n, P k
    · obtain ⟨k, less, holds⟩ := earlier
      obtain ⟨first, bound, least⟩ := ih k less holds
      exact ⟨first, Nat.le_trans bound (Nat.le_of_lt less), least⟩
    · exact ⟨n, Nat.le_refl n, h, fun k less holds => earlier ⟨k, less, holds⟩⟩

theorem congr (same : ∀ k, P k ↔ Q k) : First P n ↔ First Q n := by
  rw [show P = Q from funext fun k => propext (same k)]

end First

namespace Poll

variable {w : Window} {attempt : Probing π σ (Except ε α)} {start made n : Nat}
  {outcomes outcomes' : Nat → Except ε α} {ending : Ending ε α} {inv : Nat → π → σ → Prop} {m : π}
  {world : World σ}

/-- Made at its slot, in a state with `inv k`, attempt number `k` takes no time and comes out as
`outcomes` says. -/
def Samples (w : Window) (attempt : Probing π σ (Except ε α)) (start : Nat)
    (outcomes : Nat → Except ε α) (inv : Nat → π → σ → Prop) : Prop :=
  ∀ k m (world : World σ), world.now = start + w.interval.nanos * k → inv k m world.state →
    ∃ m' after, (attempt.run m).run world = ((outcomes k, m'), after) ∧
      after.now = world.now ∧ inv (k + 1) m' after.state

theorem Plays.samples (plays : Plays attempt (fun k => (0, outcomes k)) inv) (w : Window)
    (start : Nat) : Samples w attempt start outcomes inv :=
  fun k m world _ begins => plays k m world begins

/-- How a poll ends that began at `start` and samples `outcomes`: with number `n`, which is the first
that passes, or that of the last slot, or the last before a slot that no clock reaches. -/
inductive Sampled (w : Window) (start : Nat) (outcomes : Nat → Except ε α) :
    Nat → Ending ε α → Prop where
  | held {n : Nat} {value : α} (inside : n ≤ w.slots) (reached : Reached w start n)
      (vain : ∀ k < n, ∃ error, outcomes k = .error error) (passed : outcomes n = .ok value) :
      Sampled w start outcomes n (.ok (.ok value))
  | exhausted {error : ε} (reached : Reached w start w.slots)
      (vain : ∀ k < w.slots, ∃ error, outcomes k = .error error)
      (failed : outcomes w.slots = .error error) :
      Sampled w start outcomes w.slots
        (.ok (.error ⟨error, w.slots + 1, w.interval.nanos * w.slots⟩))
  | stranded {n : Nat} (inside : n < w.slots) (reached : Reached w start n)
      (beyond : ¬Reached w start (n + 1)) (vain : ∀ k ≤ n, ∃ error, outcomes k = .error error) :
      Sampled w start outcomes n (.error .instant)

theorem not_passed {result : Except ε α} (failed : ∃ error, result = .error error) :
    ¬∃ value, result = .ok value := by
  rintro ⟨_, passed⟩
  obtain ⟨_, failed⟩ := failed
  cases failed.symm.trans passed

namespace Sampled

variable {k : Nat}

/-- A first attempt that passes decides the poll if a clock reaches its slot. -/
theorem of_first (ends : Sampled w start outcomes n ending)
    (first : First (fun k => ∃ value, outcomes k = .ok value) k) (inside : k ≤ w.slots)
    (reached : Reached w start k) :
    n = k ∧ ∃ value, outcomes k = .ok value ∧ ending = .ok (.ok value) := by
  cases ends with
  | @held n value _ _ vain passed =>
    obtain rfl := First.unique ⟨⟨value, passed⟩, fun earlier less => not_passed (vain earlier less)⟩
      first
    exact ⟨rfl, value, passed, rfl⟩
  | exhausted _ vain failed =>
    rcases Nat.lt_or_eq_of_le inside with less | rfl
    · exact absurd first.1 (not_passed (vain k less))
    · exact absurd first.1 (not_passed ⟨_, failed⟩)
  | stranded _ _ beyond vain =>
    rcases Nat.lt_or_ge n k with late | early
    · exact absurd (reached.mono late) beyond
    · exact absurd first.1 (not_passed (vain k early))

theorem of_never (ends : Sampled w start outcomes n ending)
    (never : ∀ k ≤ w.slots, ¬∃ value, outcomes k = .ok value) (reached : Reached w start w.slots) :
    n = w.slots ∧ ∃ error, outcomes w.slots = .error error ∧
      ending = .ok (.error ⟨error, w.slots + 1, w.interval.nanos * w.slots⟩) := by
  cases ends with
  | held inside _ vain passed => exact absurd ⟨_, passed⟩ (never n inside)
  | exhausted _ vain failed => exact ⟨rfl, _, failed, rfl⟩
  | stranded inside _ beyond => exact absurd (reached.mono inside) beyond

/-- A poll panics if no clock reaches the slot of the first attempt that passes, or the last slot. -/
theorem of_beyond (ends : Sampled w start outcomes n ending) (beyond : ¬Reached w start k)
    (inside : k ≤ w.slots) (vain : ∀ j < k, ¬∃ value, outcomes j = .ok value) :
    ending = .error .instant ∧ Reached w start n ∧ ¬Reached w start (n + 1) := by
  cases ends with
  | held _ reached _ passed =>
    rcases Nat.lt_or_ge n k with early | late
    · exact absurd ⟨_, passed⟩ (vain n early)
    · exact absurd (reached.mono late) beyond
  | exhausted reached => exact absurd (reached.mono inside) beyond
  | stranded _ reached after => exact ⟨rfl, reached, after⟩

/-- A poll does not succeed if no attempt passes at a slot that a clock reaches. -/
theorem ne_ok (ends : Sampled w start outcomes n ending)
    (never : ∀ k ≤ w.slots, Reached w start k → ¬∃ value, outcomes k = .ok value) (value : α) :
    ending ≠ .ok (.ok value) := by
  cases ends with
  | held inside reached _ passed => exact absurd ⟨_, passed⟩ (never n inside reached)
  | exhausted | stranded => nofun

/-- Only the outcomes at slots of the window matter. -/
theorem congr (same : ∀ k ≤ w.slots, outcomes k = outcomes' k)
    (ends : Sampled w start outcomes n ending) : Sampled w start outcomes' n ending := by
  cases ends with
  | held inside reached vain passed =>
    refine .held inside reached (fun k less => ?_) (same n inside ▸ passed)
    rw [← same k (by omega)]
    exact vain k less
  | exhausted reached vain failed =>
    refine .exhausted reached (fun k less => ?_) (same _ (Nat.le_refl _) ▸ failed)
    rw [← same k (by omega)]
    exact vain k less
  | stranded inside reached beyond vain =>
    refine .stranded inside reached beyond fun k early => ?_
    rw [← same k (by omega)]
    exact vain k early

/-- Polls of the same outcomes end alike, from wherever clocks reach the same slots. -/
theorem unique {start' n' : Nat} {ending' : Ending ε α}
    (clocks : ∀ k ≤ w.slots, Reached w start' k ↔ Reached w start k)
    (ends : Sampled w start outcomes n ending) (ends' : Sampled w start' outcomes n' ending') :
    n' = n ∧ ending' = ending := by
  cases ends with
  | @held n value inside reached vain passed =>
    have first : First (fun k => ∃ value, outcomes k = .ok value) n :=
      ⟨⟨value, passed⟩, fun k less => not_passed (vain k less)⟩
    obtain ⟨rfl, value', passed', rfl⟩ := ends'.of_first first inside ((clocks n inside).2 reached)
    obtain rfl := Except.ok.inj (passed.symm.trans passed')
    exact ⟨rfl, rfl⟩
  | exhausted reached vain failed =>
    have never : ∀ k ≤ w.slots, ¬∃ value, outcomes k = .ok value := by
      intro k inside
      rcases Nat.lt_or_eq_of_le inside with less | rfl
      · exact not_passed (vain k less)
      · exact not_passed ⟨_, failed⟩
    obtain ⟨rfl, error', failed', rfl⟩ :=
      ends'.of_never never ((clocks _ (Nat.le_refl _)).2 reached)
    obtain rfl := Except.error.inj (failed.symm.trans failed')
    exact ⟨rfl, rfl⟩
  | stranded inside reached beyond vain =>
    have beyond' := mt (clocks (n + 1) inside).1 beyond
    obtain ⟨rfl, reached', after⟩ := ends'.of_beyond beyond' inside fun k less =>
      not_passed (vain k (Nat.le_of_lt_succ less))
    have here := (clocks n (Nat.le_of_lt inside)).2 reached
    refine ⟨Nat.le_antisymm (Nat.le_of_not_lt fun late => ?_)
      (Nat.le_of_not_lt fun early => ?_), rfl⟩
    · exact beyond' (reached'.mono late)
    · exact after (here.mono early)

end Sampled

/-- A poll of such attempts makes each at its slot, up to the one that decides it. -/
theorem Resumed.sampled {m' : π} {after : World σ}
    (h : Resumed w attempt start made m world ending m' after)
    (samples : Samples w attempt start outcomes inv) (narrow : w.Narrow)
    (interval : Time.Whole w.interval.nanos) (whole : Time.Whole start)
    (now : world.now = start + w.interval.nanos * made) (reached : Reached w start made)
    (begins : inv made m world.state) (room : made ≤ w.slots)
    (vain : ∀ k < made, ∃ error, outcomes k = .error error) :
    ∃ n, Sampled w start outcomes n ending ∧ after.now = start + w.interval.nanos * n ∧
      inv (n + 1) m' after.state := by
  have tried {made : Nat} {m m' : π} {world after : World σ} {result : Except ε α}
      (ran : (attempt.run m).run world = ((result, m'), after))
      (now : world.now = start + w.interval.nanos * made) (begins : inv made m world.state) :
      outcomes made = result ∧ after.now = start + w.interval.nanos * made ∧
        inv (made + 1) m' after.state := by
    obtain ⟨_, _, same, took, onward⟩ := samples made m world now begins
    obtain ⟨came, rfl⟩ := Prod.mk.inj (ran.symm.trans same)
    obtain ⟨rfl, rfl⟩ := Prod.mk.inj came
    exact ⟨rfl, took.trans now, onward⟩
  have failed {made : Nat} {error : ε} (vain : ∀ k < made, ∃ error, outcomes k = .error error)
      (came : outcomes made = .error error) : ∀ k ≤ made, ∃ error, outcomes k = .error error := by
    intro k early
    rcases Nat.lt_or_eq_of_le early with less | rfl
    · exact vain k less
    · exact ⟨error, came⟩
  induction h with
  | held ran =>
    obtain ⟨came, took, onward⟩ := tried ran now begins
    exact ⟨_, .held room reached vain came, took, onward⟩
  | @exhausted made _ _ _ after _ ran closed =>
    obtain ⟨came, took, onward⟩ := tried ran now begins
    have elapsed : after.now - start = w.interval.nanos * made := by omega
    rw [elapsed] at closed ⊢
    -- Only the slots close the window, for the next of them would not be over yet.
    obtain rfl : made = w.slots := by
      refine Nat.le_antisymm room (Nat.le_of_not_lt fun more => ?_)
      have slot := Window.le_slots_iff.1 (show made + 1 ≤ w.slots from more)
      have positive := w.interval_pos
      rw [Nat.mul_succ] at slot
      unfold Window.Closed at closed
      omega
    exact ⟨_, .exhausted reached vain came, took, onward⟩
  | stranded ran opened beyond =>
    obtain ⟨came, took, onward⟩ := tried ran now begins
    unfold Window.Closed at opened
    exact ⟨_, .stranded (by omega) reached beyond (failed vain came), took, onward⟩
  | uncounted ran opened _ full =>
    unfold Window.Narrow at narrow
    unfold Window.Closed at opened
    omega
  | @retried made _ _ _ _ after _ _ _ ran opened inside _ _ ih =>
    obtain ⟨came, took, onward⟩ := tried ran now begins
    unfold Window.Closed at opened
    have wakes : (awake w start (made + 1) after).now =
        start + w.interval.nanos * (made + 1) := by
      rw [awake, Time.ceilMilli_of_whole (whole.add_mul interval _), Nat.mul_succ]
      dsimp only
      omega
    exact ih wakes inside onward (by omega) fun k less =>
      failed vain came k (Nat.le_of_lt_succ less)

/-- How a poll of such attempts ends, and when. -/
theorem run_samples (samples : Samples w attempt world.now outcomes inv) (narrow : w.Narrow)
    (interval : Time.Whole w.interval.nanos) (whole : Time.Whole world.now)
    (clock : world.now < Time.limit) (begins : inv 0 m world.state) :
    ∃ n ending m' after, ((run w attempt).run m).run world = ((ending, m'), after) ∧
      Sampled w world.now outcomes n ending ∧ after.now = world.now + w.interval.nanos * n ∧
      inv (n + 1) m' after.state := by
  obtain ⟨⟨⟨ending, m'⟩, after⟩, ran⟩ : ∃ out, ((run w attempt).run m).run world = out := ⟨_, rfl⟩
  obtain ⟨n, sampled, lasted, ends⟩ := (run_resumed ran).sampled samples narrow interval whole rfl
    clock begins (Nat.zero_le _) fun _ less => absurd less (Nat.not_lt_zero _)
  exact ⟨n, ending, m', after, ran, sampled, lasted, ends⟩

theorem run_first (plays : Plays attempt (fun k => (0, outcomes k)) inv) (narrow : w.Narrow)
    (interval : Time.Whole w.interval.nanos) (whole : Time.Whole world.now)
    (begins : inv 0 m world.state) (first : First (fun k => ∃ value, outcomes k = .ok value) n)
    (inside : n ≤ w.slots) (reached : Reached w world.now n) :
    ∃ value m' after, ((run w attempt).run m).run world = ((.ok (.ok value), m'), after) ∧
      after.now = world.now + w.interval.nanos * n ∧ inv (n + 1) m' after.state := by
  obtain ⟨k, ending, m', after, ran, sampled, lasted, ends⟩ :=
    run_samples (plays.samples w world.now) narrow interval whole (reached.mono (Nat.zero_le n))
      begins
  obtain ⟨rfl, value, -, rfl⟩ := sampled.of_first first inside reached
  exact ⟨value, m', after, ran, lasted, ends⟩

theorem run_never (plays : Plays attempt (fun k => (0, outcomes k)) inv) (narrow : w.Narrow)
    (interval : Time.Whole w.interval.nanos) (whole : Time.Whole world.now)
    (clock : world.now < Time.limit) (begins : inv 0 m world.state)
    (never : ∀ k ≤ w.slots, Reached w world.now k → ¬∃ value, outcomes k = .ok value) :
    ∃ ending m' after, ((run w attempt).run m).run world = ((ending, m'), after) ∧
      ∀ value, ending ≠ .ok (.ok value) := by
  obtain ⟨_, ending, m', after, ran, sampled, -⟩ :=
    run_samples (plays.samples w world.now) narrow interval whole clock begins
  exact ⟨ending, m', after, ran, sampled.ne_ok never⟩

end Poll

/-! ### Reads by a script -/

namespace MemoryStore

variable {c : Cluster} {script : Script Nat} {version k : Nat} {base m : MemoryStore}

/-- A cluster is stored, and its next read is number `k` of the script; all else is as in `base`. -/
structure AtRead (c : Cluster) (script : Script Nat) (version : Nat) (base : MemoryStore) (k : Nat)
    (m : MemoryStore) : Prop where
  stored : ∃ ready, m.resources.get? c.ref = some ⟨.cluster c, ready, version⟩
  script : ∃ rest, m.rollouts.get? c.ref = some rest ∧ ∀ n, rest.nth? n = script.nth? (k + n)
  apart : base.SameBut [c.ref] m

theorem AtRead.next {ready count : Nat} (h : AtRead c script version base k m)
    (there : m.resources.get? c.ref = some ⟨.cluster c, ready, version⟩)
    (reports : script.nth? k = some count) :
    m.shown c.ref ⟨.cluster c, ready, version⟩ = ⟨.cluster c, count, version⟩ ∧
      AtRead c script version base (k + 1) (m.showing c.ref ⟨.cluster c, ready, version⟩) := by
  obtain ⟨rest, armed, follows⟩ := h.script
  have now : m.scripted? c.ref = some count := by
    rw [scripted?, armed, Option.bind_some, ← rest.nth?_zero, follows 0, Nat.add_zero, reports]
  have shows : m.shown c.ref ⟨.cluster c, ready, version⟩ = ⟨.cluster c, count, version⟩ := by
    simp [shown, now]
  refine ⟨shows, ?_, ?_, h.apart.trans (.showing ..)⟩
  · exact ⟨count, by simp [showing, Table.get?_modify, there, shows]⟩
  · refine ⟨rest.advance, by simp [showing, Table.get?_modify, armed], fun n => ?_⟩
    rw [rest.nth?_advance, follows, Nat.add_right_comm, Nat.add_assoc]

end MemoryStore

namespace ReadyProbe

variable {c : Cluster} {script : Script Nat} {version : Nat} {base m : MemoryStore}
  {e : Exec.Endpoint τ}

theorem attempt_atOnce (e : Exec.Endpoint τ) {probe : ReadyProbe} {stored : Stored}
    (there : m.resources.get? probe.cluster = some stored) :
    Sim.AtOnce ((attempt (MemoryStore.backend e).store).run probe) m
      (judge probe.cluster probe.expected (.ok (some (m.shown probe.cluster stored).observe)),
        { probe with lastObserved := some (m.shown probe.cluster stored).observe.readyCount })
      [.get probe.cluster (.ok (some (m.shown probe.cluster stored).observe))]
      (m.showing probe.cluster stored) := by
  have read := Sim.read_atOnce e m probe.cluster
  rw [MemoryStore.get_of_some there] at read
  rw [attempt_run]
  exact read.bind_pure rfl

/-- What read number `k` of a scripted cluster answers. -/
def scripted (c : Cluster) (version : Nat) (script : Script Nat) (k : Nat) : ReadAnswer :=
  .ok (some (Stored.observe ⟨.cluster c, (script.nth? k).getD 0, version⟩))

theorem judge_scripted {k expected : Nat} (some : script.items ≠ []) :
    (∃ found, judge c.ref expected (scripted c version script k) = .ok found) ↔
      script.nth? k = Option.some expected := by
  obtain ⟨count, reports⟩ := script.exists_nth? some k
  have ready : (Stored.observe ⟨.cluster c, count, version⟩).readyCount = count := by
    simp [Stored.observe, Store.Observation.readyCount, Cluster.workerNames]
  rw [scripted, reports, Option.getD_some, judge_found, ready, Option.some.injEq]
  split <;> simp_all

theorem attempt_plays (some : script.items ≠ []) (k expected : Nat) (x : τ) :
    Poll.Plays (attempt (MemoryStore.backend e).store)
      (fun i => (0, judge c.ref expected (scripted c version script (k + i))))
      fun i probe state => (probe.cluster = c.ref ∧ probe.expected = expected) ∧
        MemoryStore.AtRead c script version base (k + i) state.1 ∧ state.2 = x := by
  rintro i probe world ⟨⟨cluster, rfl⟩, reading, rfl⟩
  obtain ⟨ready, there⟩ := reading.stored
  obtain ⟨count, reports⟩ := script.exists_nth? some (k + i)
  obtain ⟨shows, next⟩ := reading.next there reports
  rw [← cluster] at there
  have ran := attempt_atOnce e there world rfl
  rw [cluster, shows] at ran
  have answer : scripted c version script (k + i) =
      .ok (Option.some (Stored.observe ⟨.cluster c, count, version⟩)) := by
    rw [scripted, reports, Option.getD_some]
  dsimp only
  rw [answer]
  exact ⟨_, _, ran, rfl, ⟨rfl, rfl⟩, next, rfl⟩

end ReadyProbe

/-! ### Commands answered at once -/

/-- The endpoint answers each worker of the plan at once, and from that worker's own outcomes;
`asked` tells how often each was asked before. -/
structure Exec.Endpoint.Serves (e : Exec.Endpoint τ) (p : Plan)
    (outcomes : Nat → Nat → Except Exec.Error Exec.Session) (asked : (Nat → Nat) → τ → Prop) :
    Prop where
  replies : ∀ {counts state} ordinal now, asked counts state → ordinal < p.cluster.replicas →
    let reply := e.openSession (p.workerRequest ordinal) now state
    reply.answer = outcomes ordinal (counts ordinal) ∧ reply.took = 0 ∧
      asked (fun o => if o = ordinal then counts o + 1 else counts o) reply.state
  brief : ∀ ordinal k session, outcomes ordinal k = .ok session → session.took = 0

namespace WorkerProbe

variable {e : Exec.Endpoint τ} {p : Plan} {outcomes : Nat → Nat → Except Exec.Error Exec.Session}
  {asked : (Nat → Nat) → τ → Prop} {counts : Nat → Nat} {ordinal : Nat}

theorem attempt_forward (b : Backend σ) : (attempt b.endpoint).Forward :=
  fun m w => (attempt_acts b m).forward w

theorem attempt_plays (serves : e.Serves p outcomes asked) (m : MemoryStore) (counts : Nat → Nat)
    (below : ordinal < p.cluster.replicas) :
    Poll.Plays (attempt (MemoryStore.backend e).endpoint)
      (fun k => (0, judge (p.workerRequest ordinal) p.markers (.ofOpening (outcomes ordinal k))))
      fun k probe state =>
        (probe.request = p.workerRequest ordinal ∧ probe.markers = p.markers) ∧ state.1 = m ∧
          asked (fun o => if o = ordinal then k else counts o) state.2 := by
  rintro k ⟨_, _, tries⟩ world ⟨⟨rfl, rfl⟩, memory, state⟩
  obtain ⟨answer, took, next⟩ := serves.replies ordinal world.now state below
  rw [if_pos rfl] at answer
  -- The reply as the whole backend gives it, which passes it on from the endpoint.
  obtain ⟨⟨opening, opened⟩, opens⟩ : ∃ out, (Sim.openSession (MemoryStore.backend e).endpoint
      (p.workerRequest ordinal)).run world = out := ⟨_, rfl⟩
  obtain rfl : opening = outcomes ordinal k := (congrArg Prod.fst opens).symm.trans answer
  have now : opened.now = world.now :=
    (congrArg (·.2.now) opens).symm.trans (congrArg (world.now + ·) took)
  have kept : opened.state.1 = m := (congrArg (·.2.state.1) opens).symm.trans memory
  have left : opened.state.2 = _ := (congrArg (·.2.state.2) opens).symm.trans rfl
  have brief : ((outcomes ordinal k).toOption.map Exec.Session.took).getD 0 = 0 := by
    cases came : outcomes ordinal k with
    | error _ => rfl
    | ok session => exact serves.brief ordinal k session came
  have ran := Sim.exec_run (MemoryStore.backend e).endpoint (p.workerRequest ordinal) world
  rw [opens] at ran
  refine ⟨⟨p.workerRequest ordinal, p.markers, tries + 1⟩, opened.over (outcomes ordinal k), ?_, ?_,
    ⟨rfl, rfl⟩, ?_, ?_⟩
  · rw [attempt_run, Sim.run_bind_of ran]
    rfl
  · rw [World.over_now, brief, now]
  · rwa [World.over_state]
  · rw [World.over_state, left]
    -- One more command for a worker that got `k`: the same counts, put in two ways.
    have counted : (fun o => if o = ordinal then (if o = ordinal then k else counts o) + 1
        else if o = ordinal then k else counts o) =
          fun o => if o = ordinal then k + 1 else counts o := by
      funext o
      split <;> rfl
    rw [← counted]
    exact next

end WorkerProbe

end BrokerRollout
