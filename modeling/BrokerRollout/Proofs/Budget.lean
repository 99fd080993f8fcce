import BrokerRollout.Proofs.Durations
import BrokerRollout.Proofs.NetEffect
import Mathlib.Data.List.Dedup
import Mathlib.Data.List.Perm.Subperm

/-!
# How long a run lasts

Each step of a run costs a call, or the window of its wait and a call, and each deletion of the
clean-up a call. A run tries its steps once each, and every step it tries is among its calls: what a
run costs can be read off them. Main statement: `run_within`.
-/

namespace BrokerRollout.Scenario

variable {σ : Type} {b : Backend σ} {c : Pace} {t : Timing} {s : Settings} {p : Plan}

/-! ### Steps -/

def Step.converges? : Step → Option Ref
  | .awaitReady cluster _ => some cluster
  | _ => none

def Step.persists? : Step → Option Ref
  | .awaitPersisted ref => some ref
  | _ => none

def Step.cost (c : Pace) (t : Timing) : Step → Nat
  | .submit _ => c.limit
  | .awaitReady .. => c.wake t.convergence.timeout.nanos + c.limit
  | .awaitPersisted _ => c.wake t.persistence.timeout.nanos + c.limit
  | .enter _ => 0
  | .checkWorker .. => c.wake t.worker.timeout.nanos + c.limit

theorem take_lasts (b : Backend σ) (step : Step) (r : Report) :
    Sim.Lasts c ((take b t step).run r) fun _ _ n => n = step.cost c t := by
  cases step with
  | submit resource =>
    rw [take_submit]
    exact (Sim.create_lasts b.store resource).bind_pure fun _ _ _ bound => ⟨_, rfl, bound⟩
  | awaitReady cluster expected =>
    rw [take_awaitReady]
    have polled := Poll.run_lasts (ReadyProbe.attempt_lasts (c := c) b.store) t.convergence
    exact (polled _).bind_pure fun _ _ _ bound => ⟨_, rfl, bound⟩
  | awaitPersisted ref =>
    rw [take_awaitPersisted]
    have polled := Poll.run_lasts (PersistedProbe.attempt_lasts (c := c) b.store) t.persistence
    exact (polled _).bind_pure fun _ _ _ bound => ⟨_, rfl, bound⟩
  | enter phase => exact Sim.Lasts.pure rfl
  | checkWorker request markers =>
    rw [take_checkWorker]
    have polled := Poll.run_lasts (WorkerProbe.attempt_lasts (c := c) b.endpoint) t.worker
    exact (polled _).bind_pure fun _ _ _ bound => ⟨_, rfl, bound⟩

theorem Step.Comes.asks {step : Step} {ended : Except Panic (Except Failure Unit)}
    {calls : List Call} (h : step.Comes t ended calls) {call : Call} (member : call ∈ calls) :
    step.ask? = some call.ask := by
  cases ended with
  | ok outcome => exact Step.Does.asks h member
  | error panic =>
    cases h <;>
    · obtain ⟨_, _, rfl⟩ := List.mem_map.1 member
      rfl

/-- A step that asks for something makes at least one call for it. -/
theorem Step.Comes.asked {step : Step} {ended : Except Panic (Except Failure Unit)}
    {calls : List Call} {ask : Ask} (h : step.Comes t ended calls) (asks : step.ask? = some ask) :
    ask ∈ calls.map Call.ask := by
  have some : 0 < calls.length := by
    cases ended with
    | ok outcome =>
      cases h with
      | created | refused => exact Nat.one_pos
      | entered => cases asks
      | ready ends | unready ends | persisted ends | unpersisted ends | checked ends
      | unchecked ends =>
        rw [List.length_map]
        exact ends.length_pos
    | error panic =>
      cases h with
      | unready stuck | unpersisted stuck | unchecked stuck =>
        rw [List.length_map]
        exact stuck.length_pos
  obtain ⟨call, member⟩ := List.exists_mem_of_length_pos some
  rw [Option.some.inj (asks.symm.trans (h.asks member))]
  exact List.mem_map_of_mem member

/-- Steps that were tried: the first of those planned, each with a call among `calls`. -/
structure Tried (planned tried : List Step) (calls : List Call) : Prop where
  begins : tried <+: planned
  asked : ∀ step ∈ tried, ∀ ask, step.ask? = some ask → ask ∈ calls.map Call.ask

theorem takeAll_lasts (b : Backend σ) (planned : List Step) (r : Report) :
    Sim.Lasts c ((takeAll b t planned).run r) fun _ calls n =>
      ∃ tried, Tried planned tried calls ∧ n = (tried.map (Step.cost c t)).sum := by
  induction planned generalizing r with
  | nil => exact Sim.Lasts.pure ⟨[], ⟨List.nil_prefix, nofun⟩, rfl⟩
  | cons step rest ih =>
    rw [takeAll, StateT.run_bind]
    refine ((take_lasts b step r).and_acts (take_acts b t step r)).bind ?_
    rintro ⟨ended, recorded⟩ calls _ ⟨⟨comes, -⟩, rfl⟩
    -- The step that does not get through was tried as well, and has cost what it costs.
    have only : Tried (step :: rest) [step] (calls ++ []) := by
      refine ⟨⟨rest, rfl⟩, fun one member ask asks => ?_⟩
      rw [List.append_nil]
      exact comes.asked (List.mem_singleton.1 member ▸ asks)
    rcases ended with panic | failure | ⟨⟩
    · exact Sim.Lasts.pure ⟨[step], only, rfl⟩
    · exact Sim.Lasts.pure ⟨[step], only, rfl⟩
    · refine (ih recorded).mono ?_
      rintro result more _ ⟨tried, ⟨begins, asked⟩, rfl⟩
      refine ⟨step :: tried, ⟨List.prefix_cons_inj step |>.2 begins, ?_⟩, rfl⟩
      intro one member ask asks
      rw [List.map_append]
      rcases List.mem_cons.1 member with rfl | later
      · exact List.mem_append_left _ (comes.asked asks)
      · exact List.mem_append_right _ (asked one later ask asks)

/-! ### Whole runs -/

theorem drive_lasts (b : Backend σ) (r : Report) :
    Sim.Lasts c ((drive b t s p).run r) fun _ calls n =>
      ∃ tried, Tried (steps p s) tried calls ∧ (p.validate ≠ .ok () → tried = []) ∧
        n = (tried.map (Step.cost c t)).sum := by
  unfold drive
  cases validated : p.validate with
  | error e => exact Sim.Lasts.pure ⟨[], ⟨List.nil_prefix, nofun⟩, fun _ => rfl, rfl⟩
  | ok _ =>
    refine (takeAll_lasts b (steps p s) r).mono ?_
    rintro result calls n ⟨tried, trying, bound⟩
    exact ⟨tried, trying, fun invalid => absurd rfl invalid, bound⟩

theorem cleanUp_lasts (b : Backend σ) (refs : List Ref) (r : Report) :
    Sim.Lasts c ((cleanUp b refs).run r) fun _ _ n => n = c.limit * refs.length := by
  induction refs generalizing r with
  | nil => exact Sim.Lasts.pure rfl
  | cons ref rest ih =>
    simp only [cleanUp, StateT.run_bind, StateT.run_monadLift, monadLift_self, bind_assoc,
      pure_bind]
    refine (Sim.delete_lasts b.store ref).bind ?_
    rintro (error | ⟨⟩) _ _ rfl <;> refine (ih _).mono ?_ <;> rintro _ _ _ rfl <;>
      rw [List.length_cons, Nat.mul_succ, Nat.add_comm]

def deletions (calls : List Call) : List Ref := (calls.map Call.ask).filterMap Ask.deletion?

theorem finish_lasts (b : Backend σ) (outcome : Except Failure Unit) (r : Report) :
    Sim.Lasts c ((finish b outcome).run r) fun _ calls n =>
      n = c.limit * (deletions calls).length := by
  have cleaned (refs : List Ref) (r : Report) : Sim.Lasts c ((cleanUp b refs).run r)
      fun _ calls n => n = c.limit * (deletions calls).length := by
    refine ((cleanUp_lasts b refs r).and_acts (cleanUp_acts b refs r)).mono ?_
    rintro _ calls _ ⟨⟨asked, -⟩, rfl⟩
    have all : deletions calls = refs := by
      rw [deletions, asked, List.filterMap_map]
      exact List.filterMap_some
    rw [all]
  rcases outcome with failure | ⟨⟩ <;>
    simp only [finish, StateT.run_bind, StateT.run_modify, StateT.run_get, pure_bind] <;>
    refine (cleaned _ _).bind_pure ?_ <;>
    rintro ⟨⟨⟩, left⟩ calls n bound <;>
    dsimp only <;>
    split <;>
    exact ⟨_, rfl, bound⟩

theorem run_lasts (b : Backend σ) (t : Timing) (s : Settings) (p : Plan) :
    Sim.Lasts c (run b t s p) fun _ calls n =>
      ∃ tried, Tried (steps p s) tried calls ∧ (p.validate ≠ .ok () → tried = []) ∧
        n ≤ (tried.map (Step.cost c t)).sum + c.limit * (deletions calls).length := by
  rw [run_eq]
  refine (drive_lasts b {}).bind ?_
  rintro ⟨panic | outcome, left⟩ calls _ ⟨tried, trying, invalid, rfl⟩
  · refine Sim.Lasts.pure ⟨tried, ?_, invalid, Nat.le_add_right ..⟩
    rwa [List.append_nil]
  · refine (finish_lasts b outcome left).bind_pure ?_
    rintro finished more _ rfl
    refine ⟨_, rfl, tried, ⟨trying.begins, fun step member ask asks => ?_⟩, invalid, ?_⟩
    · rw [List.map_append]
      exact List.mem_append_left _ (trying.asked step member ask asks)
    · have grows : (deletions more).length ≤ (deletions (calls ++ more)).length := by
        simp [deletions]
      exact Nat.add_le_add_left (Nat.mul_le_mul_left _ grows) _

/-! ### The budget -/

def creations (calls : List Call) : List Ref := (calls.map Call.ask).filterMap Ask.creation?

/-- The addresses that were created. -/
def addresses (calls : List Call) : List Ref :=
  (calls.filterMap createdBy).filter (·.kind = .address)

/-- The workers in which a command was run, once each. -/
def contacted (calls : List Call) : List String :=
  (((calls.map Call.ask).filterMap Ask.request?).map Exec.Request.worker).dedup

/-- What a run may take by its calls, if no call takes longer than `limit` and a timer for a span
goes off after `wake` of it. -/
def budget (wake : Nat → Nat) (limit : Nat) (t : Timing) (s : Settings) (calls : List Call) : Nat :=
  limit * (creations calls).length + limit * (deletions calls).length
    + (wake t.persistence.timeout.nanos + limit) * (addresses calls).length
    + if s.verifiesLiveState then
        (wake t.convergence.timeout.nanos + limit) * (if s.waitBeforeDependents then 2 else 1)
          + (wake t.worker.timeout.nanos + limit) * (contacted calls).length
      else 0

theorem sum_cost (steps : List Step) :
    (steps.map (Step.cost c t)).sum = c.limit * (steps.filterMap Step.ref?).length
      + (c.wake t.persistence.timeout.nanos + c.limit) * (steps.filterMap Step.persists?).length
      + ((c.wake t.convergence.timeout.nanos + c.limit) * (steps.filterMap Step.converges?).length
        + (c.wake t.worker.timeout.nanos + c.limit) * (steps.filterMap Step.worker?).length) := by
  induction steps with
  | nil => rfl
  | cons step rest ih =>
    rw [List.map_cons, List.sum_cons, ih]
    cases step <;>
      simp only [Step.cost, List.filterMap_cons, Step.ref?, Step.persists?, Step.converges?,
        Step.worker?, List.length_cons, Nat.mul_succ] <;>
      omega

/-- Steps of a sort that is planned once each are no more than what they were tried for. -/
theorem Tried.length_le {planned tried : List Step} {calls : List Call} {α : Type}
    {sort : Step → Option α} {made : List α} (h : Tried planned tried calls)
    (distinct : (planned.filterMap sort).Nodup)
    (among : ∀ step ∈ tried, ∀ a, sort step = some a → a ∈ made) :
    (tried.filterMap sort).length ≤ made.length := by
  have sound : (tried.filterMap sort).Nodup := distinct.sublist (h.begins.filterMap sort).sublist
  refine (sound.subperm fun a member => ?_).length_le
  obtain ⟨step, listed, same⟩ := List.mem_filterMap.1 member
  exact among step listed a same

theorem persists_dependents (p : Plan) :
    (dependents p).filterMap Step.persists? = p.addresses.map Address.ref := by
  rw [dependents, List.filterMap_append, filterMap_map_none (fun _ => rfl), List.filterMap_flatMap,
    List.map_eq_flatMap]
  rfl

theorem persists_steps (p : Plan) (s : Settings) :
    (steps p s).filterMap Step.persists? = p.addresses.map Address.ref := by
  have later : (verification p).filterMap Step.persists? = [] := by
    rw [List.filterMap_eq_nil_iff]
    intro step member
    rcases mem_verification member with rfl | ⟨_, rfl⟩ | ⟨_, _, rfl⟩ <;> rfl
  rw [steps_eq, submissionSteps]
  cases s.verifiesLiveState <;> cases s.waitBeforeDependents <;>
    simp [List.filterMap_cons, Step.persists?, awaitWorkers, persists_dependents, later]

theorem converges_steps (p : Plan) (s : Settings) : ((steps p s).filterMap Step.converges?).length =
    if s.verifiesLiveState then if s.waitBeforeDependents then 2 else 1 else 0 := by
  have checks (ordinals : List Nat) : (ordinals.map (check p)).filterMap Step.converges? = [] :=
    filterMap_map_none (fun _ => rfl) ordinals
  have dependents : (dependents p).filterMap Step.converges? = [] := by
    rw [List.filterMap_eq_nil_iff]
    intro step member
    rcases mem_dependents member with ⟨_, _, rfl⟩ | ⟨_, _, rfl⟩ <;> rfl
  rw [steps_eq, submissionSteps, verification_eq]
  cases s.verifiesLiveState <;> cases s.waitBeforeDependents <;>
    simp [List.filterMap_cons, Step.converges?, awaitWorkers, dependents, checks]

theorem workers_steps_none (offline : s.verifiesLiveState = false) :
    (steps p s).filterMap Step.worker? = [] := by
  rw [steps_eq, offline, List.filterMap_append, workers_submissionSteps]
  rfl

theorem workers_steps_nodup (p : Plan) (s : Settings) :
    ((steps p s).filterMap Step.worker?).Nodup := by
  cases live : s.verifiesLiveState with
  | true =>
    rw [workers_steps live]
    exact p.cluster.ordinalsDescending_nodup.map fun _ _ => p.cluster.workerName_injective
  | false =>
    rw [workers_steps_none live]
    exact List.nodup_nil

/-! ### What is tried -/

variable {tried taken : List Step} {outcome : Except Failure Unit} {calls driven cleaned : List Call}
  {report : Report}

theorem Tried.submits (h : Tried (steps p s) tried calls) (valid : p.validate = .ok ()) :
    (tried.filterMap Step.ref?).length ≤ (creations calls).length := by
  refine h.length_le (refs_steps p s ▸ Plan.nodup_refs valid) fun step member ref made => ?_
  cases step <;> cases made
  exact List.mem_filterMap.2 ⟨_, h.asked _ member _ rfl, rfl⟩

theorem Tried.contacts (h : Tried (steps p s) tried calls) :
    (tried.filterMap Step.worker?).length ≤ (contacted calls).length := by
  refine h.length_le (workers_steps_nodup p s) fun step member worker checks => ?_
  cases step <;> cases checks
  exact List.mem_dedup.2 (List.mem_map_of_mem
    (List.mem_filterMap.2 ⟨_, h.asked _ member _ rfl, rfl⟩))

/-- Only what has been created is read. -/
def ReadsOwn (calls : List Call) : Prop :=
  ∀ ref, .get ref ∈ calls.map Call.ask → ref ∈ calls.filterMap createdBy

theorem Account.readsOwn (a : Account t s p taken outcome driven cleaned report) :
    ReadsOwn (driven ++ cleaned) := by
  intro ref read
  obtain ⟨call, member, asks⟩ := List.mem_map.1 read
  rcases List.mem_append.1 member with early | late
  · rw [← a.created_calls, a.created]
    refine a.drives.reads_own ref (List.mem_filterMap.2 ⟨call, early, ?_⟩)
    rw [readBy, asks]
    rfl
  · obtain ⟨_, deletes⟩ := a.cleaned_asks late
    cases asks.symm.trans deletes

theorem Interrupted.readsOwn {panic : Panic} (h : Interrupted t (steps p s) taken panic calls) :
    ReadsOwn calls := by
  obtain ⟨step, rest, before, last, place, rfl, course, panics⟩ := h.split
  have own := steps_waitForOwn p s
  rw [place] at own
  obtain ⟨early, waits, -⟩ := waitsForOwn_append.1 own
  intro ref read
  rw [List.filterMap_append, course.creates]
  obtain ⟨call, member, asks⟩ := List.mem_map.1 read
  refine List.mem_append_left _ ?_
  rcases List.mem_append.1 member with member | member
  · refine course.reads_own early ref (List.mem_filterMap.2 ⟨call, member, ?_⟩)
    rw [readBy, asks]
    rfl
  · have comes : step.Comes t (.error panic) last := panics
    have asked := comes.asks member
    rw [asks] at asked
    refine waits ref ?_
    cases step <;> cases asked <;> rfl

theorem run_readsOwn (b : Backend σ) (t : Timing) (s : Settings) (p : Plan) (w : World σ) :
    ReadsOwn ((run b t s p).callsOf w) := by
  have recounted := (run_acts b t s p).callsOf w
  unfold Recounted at recounted
  split at recounted
  case h_1 =>
    obtain ⟨taken, outcome, driven, cleaned, calls, account⟩ := recounted
    rw [calls]
    exact account.readsOwn
  case h_2 =>
    obtain ⟨taken, -, interrupted⟩ := recounted
    exact interrupted.readsOwn

/-- Only an address that was created is waited for. -/
theorem Tried.persists (h : Tried (steps p s) tried calls) (own : ReadsOwn calls)
    (valid : p.validate = .ok ()) :
    (tried.filterMap Step.persists?).length ≤ (addresses calls).length := by
  have refs : p.addresses.map Address.ref = (p.addresses.map Resource.address).map Resource.ref := by
    rw [List.map_map]
    rfl
  have distinct : (p.addresses.map Address.ref).Nodup := by
    have all := Plan.nodup_refs valid
    rw [Plan.resources, List.map_append] at all
    rw [refs]
    exact (List.nodup_append.1 all).2.1
  refine h.length_le (persists_steps p s ▸ distinct) fun step member ref persists => ?_
  have listed : ref ∈ p.addresses.map Address.ref := by
    rw [← persists_steps p s]
    exact List.mem_filterMap.2 ⟨step, h.begins.subset member, persists⟩
  obtain ⟨address, -, rfl⟩ := List.mem_map.1 listed
  cases step <;> cases persists
  exact List.mem_filter.2 ⟨own _ (h.asked _ member _ rfl), rfl⟩

/-- What the steps of a run and its clean-up cost is within the budget. -/
theorem Tried.within (h : Tried (steps p s) tried calls) (own : ReadsOwn calls)
    (invalid : p.validate ≠ .ok () → tried = []) :
    (tried.map (Step.cost c t)).sum + c.limit * (deletions calls).length ≤
      budget c.wake c.limit t s calls := by
  by_cases valid : p.validate = .ok ()
  · have submits := Nat.mul_le_mul_left c.limit (h.submits valid)
    have persists := Nat.mul_le_mul_left (c.wake t.persistence.timeout.nanos + c.limit)
      (h.persists own valid)
    have waits := (h.begins.filterMap Step.converges?).length_le
    have checks := (h.begins.filterMap Step.worker?).length_le
    have contacts := Nat.mul_le_mul_left (c.wake t.worker.timeout.nanos + c.limit) h.contacts
    rw [converges_steps] at waits
    rw [sum_cost, budget]
    cases live : s.verifiesLiveState with
    | true =>
      rw [if_pos live] at waits
      have converges := Nat.mul_le_mul_left (c.wake t.convergence.timeout.nanos + c.limit) waits
      rw [if_pos rfl]
      omega
    | false =>
      -- Nothing is verified: no step waits for the workers or looks at one.
      rw [if_neg (by simp [live])] at waits
      rw [workers_steps_none live] at checks
      rw [Nat.le_zero.1 waits, Nat.le_zero.1 checks, if_neg (by simp)]
      omega
  · rw [invalid valid, budget]
    simp only [List.map_nil, List.sum_nil, Nat.zero_add]
    omega

theorem run_within_budget (b : Backend σ) (t : Timing) (s : Settings) (p : Plan) (w : World σ)
    (tick : c.tick ∣ w.now) (keeps : ∀ e ∈ (run b t s p).entriesOf w, c.Keeps e) :
    ((run b t s p).run w).2.now ≤
      w.now + budget c.wake c.limit t s ((run b t s p).callsOf w) := by
  obtain ⟨entries, n, grown, bounded, tried, trying, invalid, costs⟩ :=
    run_lasts (c := c) b t s p w
  have calls : entries.map Entry.call = (run b t s p).callsOf w := by
    rw [Sim.callsOf, grown, List.drop_left]
  rw [Sim.entriesOf, grown, List.drop_left] at keeps
  rw [calls] at trying costs
  have ends := (bounded tick keeps).2
  have within := trying.within (run_readsOwn b t s p w) invalid (c := c) (t := t)
  omega

/-- A run that begins at a whole millisecond, with calls that take whole milliseconds, is over by the
sum of its waits and its calls: `limit` for each creation and each deletion, and for each wait its
window, up to the next whole millisecond, and `limit`. There is a wait for each address that was
created and, in a live run, one or two for the workers to be ready and one for each worker that a
command was run in. -/
theorem run_within_whole (b : Backend σ) (t : Timing) (s : Settings) (p : Plan) (w : World σ)
    (limit : Nat) (start : Time.Whole w.now)
    (prompt : ∀ e ∈ (run b t s p).entriesOf w, Time.Whole e.took ∧ e.took ≤ limit) :
    ((run b t s p).run w).2.now ≤
      w.now + budget Time.ceilMilli limit t s ((run b t s p).callsOf w) :=
  run_within_budget (c := .whole limit) b t s p w start prompt

/-- The budget of a run whose timers may go off anywhere in the millisecond that follows a window. -/
def lateBudget (limit : Nat) (t : Timing) (s : Settings) (calls : List Call) : Nat :=
  budget (· + (Time.perMilli - 1)) limit t s calls

/-- A run whose windows fit on the clock comes to an end, and does so within its budget, with less
than a millisecond more for each wait: a timer for the end of a window goes off at the next whole
millisecond. -/
theorem run_within (b : Backend σ) (t : Timing) (s : Settings) (p : Plan) (w : World σ) (limit : Nat)
    (prompt : ∀ e ∈ (run b t s p).entriesOf w, e.took ≤ limit)
    (fits : ¬t.Overruns (w.now + lateBudget limit t s ((run b t s p).callsOf w))) :
    ∃ report, ((run b t s p).run w).1 = .ok report ∧
      (report.finalPhase = .cleanedUp ∨ report.finalPhase = .failed) ∧
      ((run b t s p).run w).2.now ≤ w.now + lateBudget limit t s ((run b t s p).callsOf w) := by
  have ended : ((run b t s p).run w).2.now ≤
      w.now + lateBudget limit t s ((run b t s p).callsOf w) :=
    run_within_budget (c := .any limit) b t s p w (Nat.one_dvd _) fun e member =>
      ⟨Nat.one_dvd _, prompt e member⟩
  have reports : Reports t ((run b t s p).run w) fun report =>
      report.finalPhase = .cleanedUp ∨ report.finalPhase = .failed := by
    refine reports_of fun report reported => ?_
    obtain ⟨taken, outcome, driven, cleaned, -, account⟩ := run_account b t s p reported
    rw [account.finalPhase_eq]
    cases outcome with
    | ok _ => exact .inl rfl
    | error _ => exact .inr rfl
  obtain ⟨report, reported, phase⟩ := reports.exists fun overruns => fits (overruns.mono ended)
  exact ⟨report, reported, phase, ended⟩

/-- A backend that finds nothing, and takes some time for each call. -/
def vacant (took : Nat) : Backend Unit where
  store := {
    create := fun _ _ state => { answer := .ok (), state, took }
    get := fun _ _ state => { answer := .ok none, state, took }
    delete := fun _ _ state => { answer := .ok (), state, took } }
  endpoint := .offline

theorem vacant_took {took : Nat} {w : World Unit} {e : Entry}
    (member : e ∈ (run (vacant took) t s p).entriesOf w) : e.took ≤ took := by
  obtain ⟨now, state, ask, same⟩ := ((run_acts (vacant took) t s p).history w).took member
  cases ask with
  | create | get | delete => exact Nat.le_of_eq same
  | openSession => exact same ▸ Nat.zero_le took

/-- With calls of three milliseconds. -/
theorem run_within_slow :
    let p := Plan.addressRollout "broker"
    let took := Time.ofMillis 3
    let x := run (vacant took) .brief .live p
    (∀ e ∈ x.entriesOf { state := () }, e.took ≤ took) ∧
      ¬Timing.brief.Overruns (lateBudget took .brief .live (x.callsOf { state := () })) ∧
      ∃ report, (x.run { state := () }).1 = .ok report ∧
        (report.finalPhase = .cleanedUp ∨ report.finalPhase = .failed) ∧
        (x.run { state := () }).2.now ≤ lateBudget took .brief .live (x.callsOf { state := () }) := by
  intro p took x
  have prompt : ∀ e ∈ x.entriesOf { state := () }, e.took ≤ took := fun _ => vacant_took
  have fits : ¬Timing.brief.Overruns (0 + lateBudget took .brief .live (x.callsOf { state := () })) := by
    decide +kernel
  have within := run_within (vacant took) .brief .live p { state := () } took prompt fits
  rw [Nat.zero_add] at fits within
  exact ⟨prompt, fits, within⟩

/-- With calls of half a millisecond and windows of one millisecond the address rollout creates
three resources, waits for the first address and deletes the three again. That is more than six calls
and a window with one call: the timer for the end of the window goes off half a millisecond late. -/
theorem run_within_halves :
    let p := Plan.addressRollout "broker"
    let took := Time.perMilli / 2
    let window : Window := ⟨.ofMillis 1, .ofMillis 1, by decide⟩
    let t : Timing := ⟨window, window, window⟩
    let x := run (vacant took) t {} p
    (∀ e ∈ x.entriesOf { state := () }, e.took ≤ took) ∧ t.Narrow ∧
      budget Time.ceilMilli took t {} (x.callsOf { state := () }) = 9 * took ∧
      (x.run { state := () }).2.now = 10 * took := by
  intro p took window t x
  have prompt : ∀ e ∈ x.entriesOf { state := () }, e.took ≤ took := fun _ => vacant_took
  exact ⟨prompt, ⟨by decide, by decide, by decide⟩, by decide +kernel, by decide +kernel⟩

end BrokerRollout.Scenario
