import BrokerRollout.Proofs.CallGrammar
import BrokerRollout.Proofs.Elapsed

/-!
# What a verdict rests on

A live run that passes has the evidence for it among its calls (`Evidence`): every address was read
back, the cluster was seen with all its workers, and the last command in each worker showed every
queue. A run that fails names the block that failed, the error of the last call of that block, and
how long the block has taken by the journal (`Failure.Explains`). Main statement: `run_grounds`.
-/

namespace BrokerRollout.Scenario

variable {σ : Type} {t : Timing} {s : Settings} {p : Plan}

/-! ### Passed runs -/

/-- What the calls of a run that passes show. -/
structure Evidence (p : Plan) (report : Report) (calls : List Call) : Prop where
  /-- Each address was read back under its name after it was created. -/
  persisted : ∀ a ∈ p.addresses, ∃ before found after,
    calls = before ++ .get a.ref (.ok (some found)) :: after ∧ found.ref.name = a.name ∧
      .create (.address a) (.ok ()) ∈ before
  /-- The cluster was seen with all its workers ready after everything was created. -/
  ready : ∃ before found after,
    calls = before ++ .get p.cluster.ref (.ok (some found)) :: after ∧
      found.readyCount = p.cluster.replicas ∧ ∀ r ∈ p.resources, .create r (.ok ()) ∈ before
  verified : report.verifiedWorkers =
    (List.range p.cluster.replicas).reverse.map p.cluster.workerName
  /-- The last command in each worker succeeded, and its output shows every queue. -/
  shown : ∀ ordinal < p.cluster.replicas, ∃ before session after,
    calls = before ++ .openSession (p.workerRequest ordinal) (.ok session) :: after ∧
      (∀ c ∈ after, c.ask ≠ .openSession (p.workerRequest ordinal)) ∧
      session.output.error = none ∧
      ∀ a ∈ p.addresses, a.queueName.toList <:+: session.output.stdoutText.toList

theorem through_persisted {calls : List Call} (h : Through (blocks t s p) calls) {a : Address}
    (member : a ∈ p.addresses) : ∃ before found after,
      calls = before ++ .get a.ref (.ok (some found)) :: after ∧ found.ref.name = a.name ∧
        .create (.address a) (.ok ()) ∈ before := by
  obtain ⟨done, rest, place⟩ := List.append_of_mem member
  obtain ⟨early, late, split, creates, -⟩ := blocks_address (t := t) (s := s) place
  rw [split] at h
  obtain ⟨before, _, after, rfl, ⟨found, rfl, named⟩, -, passed⟩ := h.accepted_at
  obtain ⟨_, present, rfl⟩ := passed _ creates
  exact ⟨before, found, after, rfl, named, present⟩

theorem through_ready {calls : List Call} (h : Through (blocks t s p) calls)
    (live : s.verifiesLiveState = true) : ∃ before found after,
      calls = before ++ .get p.cluster.ref (.ok (some found)) :: after ∧
        found.readyCount = p.cluster.replicas ∧ ∀ r ∈ p.resources, .create r (.ok ()) ∈ before := by
  rw [blocks_live live, waitingBlocks, List.append_assoc] at h
  obtain ⟨before, _, after, rfl, ⟨found, rfl, ready⟩, -, passed⟩ := h.accepted_at
  refine ⟨before, found, after, rfl, ready, fun r listed => ?_⟩
  obtain ⟨_, present, rfl⟩ := passed _ (creation_mem listed)
  exact present

theorem through_shown {calls : List Call} (h : Through (blocks t s p) calls)
    (live : s.verifiesLiveState = true) {ordinal : Nat} (below : ordinal < p.cluster.replicas) :
    ∃ before session after,
      calls = before ++ .openSession (p.workerRequest ordinal) (.ok session) :: after ∧
        (∀ c ∈ after, c.ask ≠ .openSession (p.workerRequest ordinal)) ∧
        session.output.Shows p.markers := by
  obtain ⟨done, rest, place⟩ := List.append_of_mem (Cluster.mem_ordinalsDescending.2 below)
  have sorted := p.cluster.ordinalsDescending_pairwise
  rw [place, List.pairwise_append, List.pairwise_cons] at sorted
  rw [blocks_live live, place, List.map_append, List.map_cons, ← List.append_assoc] at h
  obtain ⟨before, _, after, rfl, ⟨session, rfl, shows⟩, later, -⟩ := h.accepted_at
  refine ⟨before, session, after, rfl, fun c member asks => ?_, shows⟩
  -- The blocks that are left are those of lower ordinals.
  obtain ⟨_, listed, same⟩ := Follows.asks (.inl later) member
  obtain ⟨lower, left, rfl⟩ := List.mem_map.1 listed
  have equal := p.workerRequest_injective (Ask.openSession.inj (asks.symm.trans same))
  exact Nat.lt_irrefl ordinal (equal ▸ sorted.2.1.1 lower left)

/-! ### Failed runs -/

/-- The failure is that of the block with these calls: it names what the block is about, and it
carries the error of the last call, how many there were, how long they took from the first to the
last, and that the window was closed. -/
inductive Failure.Explains (t : Timing) (p : Plan) : Failure → Block → List Entry → Prop where
  | submission {resource : Resource} (listed : resource ∈ p.resources) (e : Store.Error)
      {entries : List Entry} (made : entries.map Entry.call = [.create resource (.error e)]) :
      Explains t p (.submission resource.ref e) (creation resource) entries
  | notPersisted {a : Address} (listed : a ∈ p.addresses) {vain : List ReadAnswer}
      {answer : ReadAnswer} {error : NotConverged} {elapsed : Nat} {entries : List Entry}
      (made : entries.map Entry.call = (vain ++ [answer]).map (.get a.ref))
      (judged : PersistedProbe.judge a.ref answer = .error error)
      (closed : t.persistence.Closed (vain.length + 1) elapsed) (spans : Spans entries elapsed) :
      Explains t p (.notPersisted a.ref ⟨error, vain.length + 1, elapsed⟩) (persistence t a.ref)
        entries
  | convergenceTimeout {vain : List ReadAnswer} {answer : ReadAnswer} {error : NotConverged}
      {elapsed : Nat} {entries : List Entry}
      (made : entries.map Entry.call = (vain ++ [answer]).map (.get p.cluster.ref))
      (judged : ReadyProbe.judge p.cluster.ref p.cluster.replicas answer = .error error)
      (closed : t.convergence.Closed (vain.length + 1) elapsed) (spans : Spans entries elapsed) :
      Explains t p
        (.convergenceTimeout p.cluster.replicas (lastReady (vain ++ [answer]))
          ⟨error, vain.length + 1, elapsed⟩)
        (readiness t p.cluster.ref p.cluster.replicas) entries
  | workerVerification {ordinal : Nat} (below : ordinal < p.cluster.replicas)
      {vain : List (Except Exec.Error Exec.Session)} {answer : Except Exec.Error Exec.Session}
      {error : WorkerError} {elapsed : Nat} {entries : List Entry}
      (made : entries.map Entry.call =
        (vain ++ [answer]).map (.openSession (p.workerRequest ordinal)))
      (judged : WorkerProbe.judge (p.workerRequest ordinal) p.markers (.ofOpening answer) =
        .error error)
      (closed : t.worker.Closed (vain.length + 1) elapsed) (spans : Spans entries elapsed) :
      Explains t p
        (.workerVerification (p.cluster.workerName ordinal) ⟨error, vain.length + 1, elapsed⟩)
        (workerBlock t p ordinal) entries

theorem Step.Does.explains {step : Step} {failure : Failure} {calls : List Call}
    {entries : List Entry} (h : step.Does t (.error failure) calls) (member : step ∈ steps p s)
    (made : entries.map Entry.call = calls) (timed : failure.Timed entries) :
    ∃ k, step.block? t = some k ∧ failure.Explains t p k entries := by
  rcases mem_steps member with ⟨resource, listed, rfl⟩ | rfl | ⟨a, listed, rfl⟩ | ⟨phase, rfl⟩ |
    ⟨ordinal, below, rfl⟩
  · cases h with
    | refused _ e => exact ⟨_, rfl, .submission listed e made⟩
  · unfold awaitWorkers at h
    cases h with
    | unready ends =>
      obtain ⟨vain, answer, error, elapsed, rfl, rfl, judged, closed⟩ := ends.lastError
      exact ⟨_, rfl, .convergenceTimeout made judged closed (timed elapsed rfl)⟩
  · cases h with
    | unpersisted ends =>
      obtain ⟨vain, answer, error, elapsed, rfl, rfl, judged, closed⟩ := ends.lastError
      exact ⟨_, rfl, .notPersisted listed made judged closed (timed elapsed rfl)⟩
  · cases h
  · unfold check at h
    cases h with
    | unchecked ends =>
      obtain ⟨vain, answer, error, elapsed, rfl, rfl, judged, closed⟩ := ends.lastError
      exact ⟨_, rfl, .workerVerification below made judged closed (timed elapsed rfl)⟩

def Block.ref? (k : Block) : Option Ref :=
  match k.ask with
  | .create resource => some resource.ref
  | _ => none

def Block.worker? (k : Block) : Option String := k.ask.request?.map Exec.Request.worker

theorem refs_blocks (t : Timing) (taken : List Step) :
    (taken.filterMap (Step.block? t)).filterMap Block.ref? = taken.filterMap Step.ref? := by
  rw [List.filterMap_filterMap]
  refine congrArg (List.filterMap · taken) (funext fun step => ?_)
  cases step <;> rfl

theorem workers_blocks (t : Timing) (taken : List Step) :
    (taken.filterMap (Step.block? t)).filterMap Block.worker? = taken.filterMap Step.worker? := by
  rw [List.filterMap_filterMap]
  refine congrArg (List.filterMap · taken) (funext fun step => ?_)
  cases step <;> rfl

variable {taken : List Step} {driven cleaned : List Call} {report : Report}

theorem Account.evidence (a : Account t s p taken (.ok ()) driven cleaned report)
    (narrow : t.Narrow) (live : s.verifiesLiveState = true) :
    Evidence p report (driven ++ cleaned) where
  persisted address listed := by
    obtain ⟨before, found, after, same, holds⟩ :=
      through_persisted (a.drives.through narrow) listed
    exact ⟨before, found, after ++ cleaned, by simp [same], holds⟩
  ready := by
    obtain ⟨before, found, after, same, holds⟩ := through_ready (a.drives.through narrow) live
    exact ⟨before, found, after ++ cleaned, by simp [same], holds⟩
  verified := by
    rw [a.verified, a.drives.all_taken]
    exact workers_steps live
  shown ordinal below := by
    obtain ⟨before, session, after, same, last, succeeded, shows⟩ :=
      through_shown (a.drives.through narrow) live below
    refine ⟨before, session, after ++ cleaned, by simp [same], ?_, succeeded, ?_⟩
    · intro c member asks
      rcases List.mem_append.1 member with member | member
      · exact last c member asks
      · obtain ⟨ref, deletes⟩ := a.cleaned_asks member
        cases deletes.symm.trans asks
    · intro address listed
      exact shows _ (List.mem_map_of_mem listed)

/-- A run of a valid plan with a live state to verify has the evidence for its verdict: if it
passes, for everything that was to be verified, and if it fails, for the failure of one block. -/
theorem run_grounds (b : Backend σ) (t : Timing) (s : Settings) (p : Plan) (w : World σ)
    (valid : p.validate = .ok ()) (live : s.verifiesLiveState = true) (narrow : t.Narrow) :
    Reports t ((run b t s p).run w) fun report =>
      (report.passed = true → Evidence p report ((run b t s p).callsOf w)) ∧
        ∀ failure, report.failure = some failure → ∃ done k rest before last cleaned,
          blocks t s p = done ++ k :: rest ∧
          (run b t s p).entriesOf w = before ++ last ++ cleaned ∧
          Through done (before.map Entry.call) ∧ k.Fails (last.map Entry.call) ∧
          failure.Explains t p k last ∧
          report.created = done.filterMap Block.ref? ∧
          report.verifiedWorkers = done.filterMap Block.worker? ∧
          (cleaned.map Entry.call).map Call.ask = report.created.reverse.map .delete := by
  refine reports_of fun report reported => ⟨fun passed => ?_, fun failure failed => ?_⟩
  · obtain ⟨taken, outcome, driven, cleaned, made, account⟩ := run_account b t s p reported
    obtain rfl := account.passed_iff.1 passed
    rw [made]
    exact account.evidence narrow live
  · obtain ⟨taken, _, cleaned, made, ⟨place, course, does, timed⟩, created, verified, cleans⟩ :=
      run_stopped b t s p w valid reported failed
    rename_i step rest before last
    obtain ⟨k, block, fails⟩ := does.fails narrow
    obtain ⟨k', block', explains⟩ := does.explains (s := s) (p := p) (by simp [place]) rfl timed
    cases block.symm.trans block'
    refine ⟨taken.filterMap (Step.block? t), k, rest.filterMap (Step.block? t), before, last,
      cleaned, ?_, made, course.passes narrow rfl, fails, explains, ?_, ?_, cleans⟩
    · rw [← blocks_eq, place, List.filterMap_append, List.filterMap_cons_some block]
    · rw [refs_blocks, created]
    · rw [workers_blocks, verified]

/-- The rollout that passes at the second look has the evidence for it, and without a cluster the
same rollout fails with an explanation. -/
theorem run_grounds_rollout :
    let p := Plan.addressRollout "broker"
    let x := run (MemoryStore.backend secondTryEndpoint) .brief .live p
    let y := run ⟨MemoryStore.store, .offline⟩ .brief .live p
    p.validate = .ok () ∧ Settings.live.verifiesLiveState = true ∧ Timing.brief.Narrow ∧
      (∃ report, (x.run secondTryWorld).1 = .ok report ∧ report.passed = true ∧
        Evidence p report (x.callsOf secondTryWorld)) ∧
      ∃ report failure k last, (y.run { state := {} }).1 = .ok report ∧
        report.failure = some failure ∧ failure.Explains .brief p k last := by
  intro p x y
  have valid : p.validate = .ok () := rfl
  have live : Settings.live.verifiesLiveState = true := rfl
  refine ⟨valid, live, Timing.brief_narrow, ?passes, ?fails⟩
  case passes =>
    obtain ⟨report, reported, passed⟩ : ∃ report, (x.run secondTryWorld).1 = .ok report ∧
      report.passed = true := secondTry_passes
    have grounds := (run_grounds (MemoryStore.backend secondTryEndpoint) .brief .live p
      secondTryWorld valid live Timing.brief_narrow).of_ok reported
    exact ⟨report, reported, passed, grounds.1 passed⟩
  case fails =>
    have fits : ¬Timing.brief.Overruns (y.run { state := {} }).2.now := by decide +kernel
    have fails : ((y.run { state := {} }).1.toOption.bind Report.failure).isSome = true := by
      decide +kernel
    obtain ⟨report, reported, -, explained⟩ := (run_grounds ⟨MemoryStore.store, .offline⟩ .brief
      .live p { state := {} } valid live Timing.brief_narrow).exists fits
    rw [reported] at fails
    obtain ⟨failure, failed⟩ := Option.isSome_iff_exists.1 fails
    obtain ⟨_, k, _, _, last, _, -, -, -, -, explains, -⟩ := explained failure failed
    exact ⟨report, failure, k, last, reported, failed, explains⟩

end BrokerRollout.Scenario
