import BrokerRollout.Proofs.MemoryCalls
import BrokerRollout.Proofs.Schedule

/-!
# Steps that take no time

A store in memory answers at once, so that a step which needs one answer takes no time, and comes
to the same end whatever the endpoint, the time and the windows are (`Immediate`). These are the
steps that submit a plan, if nothing is in their way (`submit_all`), or up to the first that fails
(`submit_until`), and the clean-up (`cleanUp_atOnce`).
-/

namespace BrokerRollout

variable {τ α β π ε : Type}

/-! ### What is in the way of a creation -/

namespace MemoryStore

variable {m m' mid : MemoryStore} {r : Resource} {ref : Ref} {refs : List Ref}

/-- What the creation of a resource fails with: a rejection comes before a collision. -/
def obstacle? (m : MemoryStore) (ref : Ref) : Option Store.Error :=
  match m.rejections.get? ref with
  | some reason => some (.rejected ref reason)
  | none => if m.contains ref then some (.alreadyExists ref) else none

theorem obstacle?_eq_none :
    m.obstacle? ref = none ↔ m.rejections.get? ref = none ∧ m.contains ref = false := by
  unfold obstacle?
  cases m.rejections.get? ref <;> simp

theorem create_of_clear (clear : m.obstacle? r.ref = none) :
    m.create r = (.ok (), m.holding r) := by
  obtain ⟨unarmed, absent⟩ := obstacle?_eq_none.1 clear
  exact create_of_free unarmed absent

theorem create_of_obstacle {error : Store.Error} (h : m.obstacle? r.ref = some error) :
    ∃ m', m.create r = (.error error, m') := by
  unfold obstacle? at h
  cases armed : m.rejections.get? r.ref with
  | some reason =>
    rw [armed] at h
    cases h
    exact ⟨_, create_of_armed armed⟩
  | none =>
    cases there : m.contains r.ref with
    | true =>
      simp only [armed, there, if_true] at h
      cases h
      exact ⟨_, create_of_contains armed there⟩
    | false => simp [armed, there] at h

/-- The same but for the entries and scripts of `refs`, and with the same creations rejected. -/
structure SameBut (refs : List Ref) (m m' : MemoryStore) : Prop where
  rejections : m'.rejections = m.rejections
  resources : ∀ ref ∉ refs, m'.resources.get? ref = m.resources.get? ref
  rollouts : ∀ ref ∉ refs, m'.rollouts.get? ref = m.rollouts.get? ref

namespace SameBut

theorem refl (refs : List Ref) (m : MemoryStore) : SameBut refs m m :=
  ⟨rfl, fun _ _ => rfl, fun _ _ => rfl⟩

theorem trans (h : SameBut refs m mid) (h' : SameBut refs mid m') : SameBut refs m m' where
  rejections := h'.rejections.trans h.rejections
  resources ref other := (h'.resources ref other).trans (h.resources ref other)
  rollouts ref other := (h'.rollouts ref other).trans (h.rollouts ref other)

theorem mono {more : List Ref} (h : SameBut refs m m') (fewer : ∀ ref ∈ refs, ref ∈ more) :
    SameBut more m m' where
  rejections := h.rejections
  resources ref other := h.resources ref fun member => other (fewer ref member)
  rollouts ref other := h.rollouts ref fun member => other (fewer ref member)

theorem holding (m : MemoryStore) (r : Resource) : SameBut [r.ref] m (m.holding r) where
  rejections := rfl
  resources ref other := by
    simp only [MemoryStore.holding, Table.get?_insert, if_neg (List.ne_of_not_mem_cons other)]
  rollouts _ _ := rfl

theorem showing (m : MemoryStore) (ref : Ref) (stored : Stored) :
    SameBut [ref] m (m.showing ref stored) where
  rejections := rfl
  resources other apart := by
    simp only [MemoryStore.showing, Table.get?_modify, if_neg (List.ne_of_not_mem_cons apart)]
  rollouts other apart := by
    simp only [MemoryStore.showing, Table.get?_modify, if_neg (List.ne_of_not_mem_cons apart)]

theorem obstacle? (h : SameBut refs m m') (other : ref ∉ refs) :
    m'.obstacle? ref = m.obstacle? ref := by
  have same : m'.contains ref = m.contains ref := congrArg Option.isSome (h.resources ref other)
  rw [MemoryStore.obstacle?, MemoryStore.obstacle?, h.rejections, same]

end SameBut

theorem get?_holding (m : MemoryStore) (r : Resource) :
    (m.holding r).resources.get? r.ref =
      some { resource := r, ready := 0, version := m.versions + 1 } := by
  simp [holding, Table.get?_insert]

end MemoryStore

/-! ### Activities -/

/-- The world after calls that took no time. -/
def World.passing (w : World (MemoryStore × τ)) (calls : List Call) (m : MemoryStore) :
    World (MemoryStore × τ) :=
  { w with
    state := (m, w.state.2)
    journal := w.journal ++ calls.map fun call => ⟨call, w.now, w.now, []⟩ }

theorem World.passing_nil (w : World (MemoryStore × τ)) : w.passing [] w.state.1 = w := by
  simp [passing]

theorem World.passing_passing (w : World (MemoryStore × τ)) (calls more : List Call)
    (m m' : MemoryStore) : (w.passing calls m).passing more m' = w.passing (calls ++ more) m' := by
  simp [passing]

namespace Sim

/-- From memory `m` on, the activity comes to `a` by these calls, which take no time. -/
def AtOnce (x : Sim (MemoryStore × τ) α) (m : MemoryStore) (a : α) (calls : List Call)
    (m' : MemoryStore) : Prop :=
  ∀ w : World (MemoryStore × τ), w.state.1 = m → x.run w = (a, w.passing calls m')

namespace AtOnce

variable {x : Sim (MemoryStore × τ) α} {m m' mid : MemoryStore} {a : α} {b : β}
  {calls more : List Call}

theorem pure (a : α) (m : MemoryStore) :
    AtOnce (Pure.pure a : Sim (MemoryStore × τ) α) m a [] m := by
  rintro w rfl
  rw [w.passing_nil]
  rfl

theorem bind {f : α → Sim (MemoryStore × τ) β} (first : AtOnce x m a calls mid)
    (next : AtOnce (f a) mid b more m') : AtOnce (x >>= f) m b (calls ++ more) m' := by
  intro w memory
  rw [run_bind_of (first w memory), next _ rfl, w.passing_passing]

theorem bind_pure {f : α → Sim (MemoryStore × τ) β} (first : AtOnce x m a calls m')
    (same : f a = Pure.pure b) : AtOnce (x >>= f) m b calls m' := by
  rw [← List.append_nil calls]
  exact first.bind (same ▸ .pure b m')

theorem callsOf (h : AtOnce x m a calls m') {w : World (MemoryStore × τ)} (memory : w.state.1 = m) :
    x.callsOf w = calls := by
  rw [Sim.callsOf, h w memory]
  simp [World.passing, Function.comp_def]

end AtOnce

variable (e : Exec.Endpoint τ) (m : MemoryStore)

theorem create_atOnce (r : Resource) : AtOnce (create (MemoryStore.backend e).store r) m
    (m.create r).1 [.create r (m.create r).1] (m.create r).2 := by
  rintro w rfl
  rfl

theorem read_atOnce (ref : Ref) : AtOnce (read (MemoryStore.backend e).store ref) m
    (.ok (m.get ref).1) [.get ref (.ok (m.get ref).1)] (m.get ref).2 := by
  rintro w rfl
  rfl

theorem delete_atOnce (ref : Ref) : AtOnce (delete (MemoryStore.backend e).store ref) m
    (m.delete ref).1 [.delete ref (m.delete ref).1] (m.delete ref).2 := by
  rintro w rfl
  rfl

end Sim

/-- A poll whose first attempt succeeds at once is over at once. -/
theorem Poll.run_atOnce {w : Window} {attempt : Probing π (MemoryStore × τ) (Except ε α)}
    {probe probe' : π} {m m' : MemoryStore} {value : α} {calls : List Call}
    (passes : Sim.AtOnce (attempt.run probe) m (.ok value, probe') calls m') :
    Sim.AtOnce ((run w attempt).run probe) m (.ok (.ok value), probe') calls m' :=
  fun world memory => resume_of_ok (passes world memory)

theorem PersistedProbe.attempt_atOnce (e : Exec.Endpoint τ) {m : MemoryStore} {ref : Ref}
    {stored : Stored} (there : m.resources.get? ref = some stored)
    (named : stored.resource.ref.name = ref.name) :
    Sim.AtOnce ((attempt (MemoryStore.backend e).store).run { ref }) m
      (.ok (m.shown ref stored).observe, { ref })
      [.get ref (.ok (some (m.shown ref stored).observe))] (m.showing ref stored) := by
  have read := Sim.read_atOnce e m ref
  rw [MemoryStore.get_of_some there] at read
  have passes : judge ref (.ok (some (m.shown ref stored).observe)) =
      .ok (m.shown ref stored).observe := by
    rw [judge_found]
    exact if_pos named
  rw [attempt_run]
  exact read.bind_pure (by rw [passes])

namespace Scenario

/-! ### Steps -/

variable {σ : Type} {b : Backend σ} {t : Timing} {s : Settings} {p : Plan}
  {m m' mid : MemoryStore} {r r' : Report} {calls more : List Call}

theorem takeAll_append (b : Backend σ) (t : Timing) (first second : List Step) :
    takeAll b t (first ++ second) = takeAll b t first >>= fun
      | .ok (.ok ()) => takeAll b t second
      | .ok (.error e) => return .ok (.error e)
      | .error panic => return .error panic := by
  induction first with
  | nil => simp [takeAll]
  | cons step first ih =>
    rw [List.cons_append, takeAll, takeAll, bind_assoc]
    refine congrArg (take b t step >>= ·) (funext fun ended => ?_)
    rcases ended with panic | e | ⟨⟩
    · exact (pure_bind ..).symm
    · exact (pure_bind ..).symm
    · exact ih

theorem takeAll_singleton (b : Backend σ) (t : Timing) (step : Step) :
    takeAll b t [step] = take b t step := by
  have rest : ∀ ended : Except Panic (Except Failure Unit), (match ended with
      | .ok (.ok ()) => takeAll b t []
      | .ok (.error e) => return .ok (.error e)
      | .error panic => return .error panic : Reporting σ _) = pure ended := by
    rintro (panic | e | ⟨⟩) <;> rfl
  rw [takeAll]
  exact (congrArg (take b t step >>= ·) (funext rest)).trans (bind_pure _)

/-- From memory `m` on, the steps come to their end by these calls, which take no time, whatever the
endpoint and the windows are. -/
def Immediate (steps : List Step) (m : MemoryStore) (r : Report) (outcome : Except Failure Unit)
    (r' : Report) (calls : List Call) (m' : MemoryStore) : Prop :=
  ∀ (τ : Type) (e : Exec.Endpoint τ) (t : Timing),
    Sim.AtOnce ((takeAll (MemoryStore.backend e) t steps).run r) m (.ok outcome, r') calls m'

namespace Immediate

variable {first second steps : List Step} {outcome : Except Failure Unit} {failure : Failure}

theorem nil (m : MemoryStore) (r : Report) : Immediate [] m r (.ok ()) r [] m :=
  fun _ _ _ => .pure _ m

theorem append {mid_r : Report} (before : Immediate first m r (.ok ()) mid_r calls mid)
    (after : Immediate second mid mid_r outcome r' more m') :
    Immediate (first ++ second) m r outcome r' (calls ++ more) m' := by
  intro τ e t
  rw [takeAll_append, StateT.run_bind]
  exact (before τ e t).bind (after τ e t)

theorem append_failed (before : Immediate first m r (.error failure) r' calls m')
    (second : List Step) : Immediate (first ++ second) m r (.error failure) r' calls m' := by
  intro τ e t
  rw [takeAll_append, StateT.run_bind]
  exact (before τ e t).bind_pure rfl

end Immediate

theorem enter_immediate (phase : Phase) (m : MemoryStore) (r : Report) :
    Immediate [.enter phase] m r (.ok ()) (r.enter phase) [] m :=
  fun _ _ _ => .pure _ m

theorem submit_clear {q : Resource} (clear : m.obstacle? q.ref = none) (r : Report) :
    Immediate [.submit q] m r (.ok ()) { r with created := r.created ++ [q.ref] }
      [.create q (.ok ())] (m.holding q) := by
  intro τ e t
  have creates := Sim.create_atOnce e m q
  rw [MemoryStore.create_of_clear clear] at creates
  rw [takeAll_singleton, take_submit]
  exact creates.bind_pure rfl

theorem submit_obstructed {q : Resource} {error : Store.Error} (armed : m.obstacle? q.ref = some error)
    (r : Report) : ∃ m', Immediate [.submit q] m r (.error (.submission q.ref error)) r
      [.create q (.error error)] m' := by
  obtain ⟨m', refused⟩ := MemoryStore.create_of_obstacle armed
  refine ⟨m', fun τ e t => ?_⟩
  have creates := Sim.create_atOnce e m q
  rw [refused] at creates
  rw [takeAll_singleton, take_submit]
  exact creates.bind_pure rfl

theorem persisted_immediate {ref : Ref} {stored : Stored}
    (there : m.resources.get? ref = some stored) (named : stored.resource.ref.name = ref.name)
    (r : Report) : Immediate [.awaitPersisted ref] m r (.ok ()) r
      [.get ref (.ok (some (m.shown ref stored).observe))] (m.showing ref stored) := by
  intro τ e t
  have polled := Poll.run_atOnce (w := t.persistence) (PersistedProbe.attempt_atOnce e there named)
  rw [takeAll_singleton, take_awaitPersisted]
  exact polled.bind_pure rfl

/-! ### Submissions -/

/-- The steps that submit a resource; an address is read back. -/
def resourceSteps : Resource → List Step
  | .address a => [.submit (.address a), .awaitPersisted a.ref]
  | r => [.submit r]

/-- What is asked of the store for a resource. -/
def resourceAsks : Resource → List Ask
  | .address a => [.create (.address a), .get a.ref]
  | r => [.create r]

theorem dependents_eq (p : Plan) : dependents p =
    (p.security.toList.map Resource.security ++ p.addresses.map Resource.address).flatMap
      resourceSteps := by
  rw [dependents, List.flatMap_append, List.flatMap_map, List.flatMap_map, List.map_eq_flatMap]
  rfl

theorem steps_offline (offline : s.verifiesLiveState = false) :
    steps p s = p.resources.flatMap resourceSteps ++ [.enter .submitted] := by
  rw [steps_eq, submissionSteps, dependents_eq]
  simp [offline, Plan.resources, resourceSteps]

theorem resource_immediate (q : Resource) (clear : m.obstacle? q.ref = none) (r : Report) :
    ∃ calls m', Immediate (resourceSteps q) m r (.ok ())
      { r with created := r.created ++ [q.ref] } calls m' ∧
        calls.map Call.ask = resourceAsks q ∧ m.SameBut [q.ref] m' := by
  have submits := submit_clear clear r
  have held := MemoryStore.SameBut.holding m q
  cases q with
  | cluster | security => exact ⟨_, _, submits, rfl, held⟩
  | address a =>
    have there := MemoryStore.get?_holding m (.address a)
    exact ⟨_, _, submits.append (persisted_immediate there rfl _), rfl, held.trans (.showing ..)⟩

/-- Resources with nothing in their way are all submitted. -/
theorem submit_all {qs : List Resource} (distinct : (qs.map Resource.ref).Nodup)
    (clear : ∀ q ∈ qs, m.obstacle? q.ref = none) (r : Report) :
    ∃ calls m', Immediate (qs.flatMap resourceSteps) m r (.ok ())
      { r with created := r.created ++ qs.map Resource.ref } calls m' ∧
        calls.map Call.ask = qs.flatMap resourceAsks ∧ m.SameBut (qs.map Resource.ref) m' := by
  induction qs generalizing m r with
  | nil => exact ⟨[], m, by simpa using Immediate.nil m r, rfl, .refl _ m⟩
  | cons q qs ih =>
    obtain ⟨other, distinct⟩ := List.nodup_cons.1 distinct
    obtain ⟨first_clear, clear⟩ := List.forall_mem_cons.1 clear
    obtain ⟨calls, mid, first, asks, same⟩ := resource_immediate q first_clear r
    -- Submitting `q` changes nothing for other resources, so that nothing gets in their way.
    have still : ∀ later ∈ qs, mid.obstacle? later.ref = none := by
      intro later member
      have apart : later.ref ∉ [q.ref] := by
        rw [List.mem_singleton]
        exact fun equal => other (equal ▸ List.mem_map_of_mem member)
      rw [same.obstacle? apart, clear later member]
    obtain ⟨more, m', rest, others, kept⟩ :=
      ih distinct still { r with created := r.created ++ [q.ref] }
    refine ⟨calls ++ more, m', ?_, ?_, ?_⟩
    · simpa using first.append rest
    · rw [List.map_append, asks, others, List.flatMap_cons]
    · have early : m.SameBut ((q :: qs).map Resource.ref) mid := same.mono (by simp)
      exact early.trans (kept.mono fun ref member => List.mem_cons_of_mem _ member)

theorem resourceSteps_eq (q : Resource) :
    ∃ rest, resourceSteps q = [.submit q] ++ rest := by
  cases q <;> exact ⟨_, rfl⟩

/-- Resources are submitted up to the first that has something in its way. -/
theorem submit_until {before after : List Resource} {q : Resource} {error : Store.Error}
    (distinct : ((before ++ q :: after).map Resource.ref).Nodup)
    (clear : ∀ earlier ∈ before, m.obstacle? earlier.ref = none)
    (stuck : m.obstacle? q.ref = some error) (r : Report) (rest : List Step) :
    ∃ calls m', Immediate ((before ++ q :: after).flatMap resourceSteps ++ rest) m r
      (.error (.submission q.ref error)) { r with created := r.created ++ before.map Resource.ref }
      calls m' ∧ calls.map Call.ask = before.flatMap resourceAsks ++ [.create q] := by
  rw [List.map_append, List.nodup_append] at distinct
  obtain ⟨distinct, -, apart⟩ := distinct
  obtain ⟨calls, mid, first, asks, same⟩ := submit_all distinct clear r
  have foreign : q.ref ∉ before.map Resource.ref :=
    fun member => apart _ member _ List.mem_cons_self rfl
  rw [← same.obstacle? foreign] at stuck
  obtain ⟨m', refused⟩ := submit_obstructed stuck
    { r with created := r.created ++ before.map Resource.ref }
  obtain ⟨tail, split⟩ := resourceSteps_eq q
  refine ⟨calls ++ [.create q (.error error)], m', ?_, by rw [List.map_append, asks]; rfl⟩
  rw [List.flatMap_append, List.flatMap_cons, split, List.append_assoc, List.append_assoc,
    List.append_assoc]
  exact first.append (refused.append_failed _)

/-! ### The end of a run -/

theorem Report.recordDeletions_append (r : Report) (calls more : List Call) :
    r.recordDeletions (calls ++ more) = (r.recordDeletions calls).recordDeletions more := by
  simp [Report.recordDeletions]

theorem Report.recordDeletions_deleted (r : Report) (ref : Ref) :
    r.recordDeletions [.delete ref (.ok ())] = { r with deleted := r.deleted ++ [ref] } := by
  simp [recordDeletions, List.filterMap_cons, deletedBy, undeletedBy]

theorem Report.recordDeletions_undeleted (r : Report) (ref : Ref) (error : Store.Error) :
    r.recordDeletions [.delete ref (.error error)] =
      { r with cleanupErrors := r.cleanupErrors ++ [{ ref, error }] } := by
  simp [recordDeletions, List.filterMap_cons, deletedBy, undeletedBy]

theorem cleanUp_atOnce (refs : List Ref) (m : MemoryStore) (r : Report) :
    ∃ calls m', calls.map Call.ask = refs.map .delete ∧
      ∀ (τ : Type) (e : Exec.Endpoint τ), Sim.AtOnce
        ((cleanUp (MemoryStore.backend e) refs).run r) m ((), r.recordDeletions calls) calls m' := by
  induction refs generalizing m r with
  | nil =>
    have same : r.recordDeletions [] = r := by simp [Report.recordDeletions]
    exact ⟨[], m, rfl, fun τ e => same.symm ▸ .pure ((), r) m⟩
  | cons ref refs ih =>
    -- The memory alone decides the answer, before any endpoint is given.
    obtain ⟨answer, mid, deleted⟩ : ∃ answer mid, m.delete ref = (answer, mid) := ⟨_, _, rfl⟩
    let call : Call := .delete ref answer
    obtain ⟨calls, m', asks, rest⟩ := ih mid (r.recordDeletions [call])
    refine ⟨[call] ++ calls, m', congrArg (_ :: ·) asks, fun τ e => ?_⟩
    have deletes := Sim.delete_atOnce e m ref
    rw [deleted] at deletes
    rw [r.recordDeletions_append]
    simp only [cleanUp, StateT.run_bind, StateT.run_monadLift, monadLift_self, bind_assoc, pure_bind]
    refine deletes.bind ?_
    rcases answer with error | ⟨⟩
    · exact r.recordDeletions_undeleted ref error ▸ rest τ e
    · exact r.recordDeletions_deleted ref ▸ rest τ e

theorem finish_atOnce (outcome : Except Failure Unit) (m : MemoryStore) {r : Report}
    (unfailed : r.failure = none) :
    ∃ calls m', calls.map Call.ask = r.created.reverse.map .delete ∧
      ∀ (τ : Type) (e : Exec.Endpoint τ), Sim.AtOnce ((finish (MemoryStore.backend e) outcome).run r) m
        ((), (r.conclude outcome).recordDeletions calls) calls m' := by
  rcases outcome with failure | ⟨⟩
  · obtain ⟨calls, m', asks, cleans⟩ := cleanUp_atOnce r.created.reverse m
      { r.enter .failed with failure := some failure }
    refine ⟨calls, m', asks, fun τ e => ?_⟩
    simp only [finish, StateT.run_bind, StateT.run_modify, StateT.run_get, pure_bind]
    exact (cleans τ e).bind_pure rfl
  · obtain ⟨calls, m', asks, cleans⟩ := cleanUp_atOnce r.created.reverse m r
    refine ⟨calls, m', asks, fun τ e => ?_⟩
    simp only [finish, StateT.run_bind, StateT.run_get, pure_bind]
    refine (cleans τ e).bind_pure ?_
    have passed : (r.recordDeletions calls).passed = true := by
      simp [Report.passed, Report.recordDeletions, unfailed]
    rw [if_pos passed]
    simp [Report.conclude, Report.recordDeletions, Report.enter, unfailed, lastPhase, failure?]

theorem conclude_failure (r : Report) (outcome : Except Failure Unit) (cleaned : List Call) :
    ((r.conclude outcome).recordDeletions cleaned).failure = failure? outcome := rfl

theorem conclude_passed (r : Report) (outcome : Except Failure Unit) (cleaned : List Call) :
    ((r.conclude outcome).recordDeletions cleaned).passed = true ↔ outcome = .ok () := by
  rw [Report.passed, conclude_failure]
  rcases outcome with failure | ⟨⟩ <;> simp [failure?]

end Scenario

end BrokerRollout
