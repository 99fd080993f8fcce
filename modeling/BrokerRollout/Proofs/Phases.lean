import BrokerRollout.Proofs.Overruns

/-!
# Phases of a run

A run is stopped while it submits, while it waits for the workers again, or while it checks them
(`Stops`), and so its trail is one of five. Main statement: which trail it is, when, and what the
failure has to do with it (`run_trail`).
-/

namespace BrokerRollout.Scenario

variable {σ : Type} {t : Timing} {p : Plan} {s : Settings}

/-! ### Where a run can stop -/

/-- The places where a run can stop: the steps it has taken, and the one that fails. -/
inductive Stops (p : Plan) (s : Settings) : List Step → Step → Prop where
  | submitting {taken rest : List Step} {step : Step}
      (place : submissionSteps p s = taken ++ step :: rest) : Stops p s taken step
  | converging (live : s.verifiesLiveState = true) :
      Stops p s (submissionSteps p s ++ [.enter .submitted]) (awaitWorkers p)
  | verifying {done rest : List Nat} {ordinal : Nat} (live : s.verifiesLiveState = true)
      (place : p.cluster.ordinalsDescending = done ++ ordinal :: rest) :
      Stops p s
        (submissionSteps p s ++ .enter .submitted :: awaitWorkers p :: .enter .converged ::
          .enter .perUnitVerifying :: done.map (check p))
        (check p ordinal)

/-- A step other than `mark` stands before it or after it. -/
theorem before_or_after {before after taken rest : List Step} {mark step : Step}
    (h : before ++ mark :: after = taken ++ step :: rest) (other : step ≠ mark) :
    (∃ more, before = taken ++ step :: more) ∨
      ∃ more, taken = before ++ mark :: more ∧ after = more ++ step :: rest := by
  rcases List.append_eq_append_iff.1 h with ⟨more, rfl, split⟩ | ⟨more, rfl, split⟩
  · cases more with
    | nil => exact absurd (List.cons.inj split).1.symm other
    | cons first more =>
      obtain ⟨rfl, rfl⟩ := List.cons.inj split
      exact .inr ⟨more, rfl, rfl⟩
  · cases more with
    | nil => exact absurd (List.cons.inj split).1 other
    | cons first more =>
      obtain ⟨rfl, -⟩ := List.cons.inj split
      exact .inl ⟨more, rfl⟩

/-- A step that enters no phase stands at one of the places. -/
theorem stops_of_steps {taken rest : List Step} {step : Step}
    (place : steps p s = taken ++ step :: rest) (fails : step.phase? = none) :
    Stops p s taken step := by
  have other (phase : Phase) : step ≠ .enter phase := by
    rintro rfl
    cases fails
  rw [steps_eq] at place
  rcases before_or_after place (other _) with ⟨_, early⟩ | ⟨taken, rfl, verifies⟩
  · exact .submitting early
  cases live : s.verifiesLiveState with
  | false => simp [live] at verifies
  | true =>
    rw [if_pos live, verification_eq] at verifies
    -- The first three steps of the verification are the wait and two phases.
    rcases taken with _ | ⟨_, _ | ⟨_, _ | ⟨_, taken⟩⟩⟩ <;>
      simp only [List.nil_append, List.cons_append, List.cons.injEq] at verifies
    · obtain ⟨rfl, -⟩ := verifies
      exact .converging live
    · exact absurd verifies.2.1.symm (other _)
    · exact absurd verifies.2.2.1.symm (other _)
    · obtain ⟨rfl, rfl, rfl, checks⟩ := verifies
      rcases before_or_after checks (other _) with ⟨_, inside⟩ | ⟨_, _, none⟩
      · obtain ⟨done, later, split, rfl, stands⟩ := List.map_eq_append_iff.1 inside
        obtain ⟨ordinal, _, rfl, rfl, -⟩ := List.map_eq_cons_iff.1 stands
        exact .verifying live split
      · simp at none

theorem Step.Does.phase?_eq_none {step : Step} {failure : Failure} {calls : List Call}
    (h : step.Does t (.error failure) calls) : step.phase? = none := by
  cases h <;> rfl

/-- A run is refused, gets through all steps, or stops at one of the places. -/
theorem Drives.cases {taken : List Step} {outcome : Except Failure Unit} {calls : List Call}
    (h : Drives t s p taken outcome calls) :
    (∃ e, taken = [] ∧ outcome = .error (.invalidPlan e)) ∨
      (taken = steps p s ∧ outcome = .ok ()) ∨
      ∃ failure step last, outcome = .error failure ∧ Stops p s taken step ∧
        step.Does t (.error failure) last := by
  cases h with
  | invalid => exact .inl ⟨_, rfl, rfl⟩
  | valid _ course =>
    rcases course.split with ⟨ends, all⟩ | ⟨failure, step, _, _, last, ends, place, -, -, fails⟩
    · exact .inr (.inl ⟨all.symm, ends⟩)
    · have stops := stops_of_steps place fails.phase?_eq_none
      exact .inr (.inr ⟨failure, step, last, ends, stops, fails⟩)

/-! ### What was done before -/

theorem phases_early {taken rest : List Step} (place : submissionSteps p s = taken ++ rest) :
    taken.filterMap Step.phase? = [] := by
  have none := phases_submissionSteps p s
  rw [place, List.filterMap_append, List.append_eq_nil_iff] at none
  exact none.1

theorem phases_submitted (p : Plan) (s : Settings) :
    (submissionSteps p s ++ [Step.enter .submitted]).filterMap Step.phase? = [.submitted] := by
  rw [List.filterMap_append, phases_submissionSteps]
  rfl

theorem phases_verifying (p : Plan) (s : Settings) (done : List Nat) :
    (submissionSteps p s ++ .enter .submitted :: awaitWorkers p :: .enter .converged ::
      .enter .perUnitVerifying :: done.map (check p)).filterMap Step.phase? =
      [.submitted, .converged, .perUnitVerifying] := by
  rw [List.filterMap_append, phases_submissionSteps]
  simp only [List.filterMap_cons, Step.phase?, awaitWorkers, phases_checks]
  rfl

/-- Only the cluster has been created when a run waits for it and is still submitting. -/
theorem early_wait {taken rest : List Step} {cluster : Ref} {expected : Nat}
    (place : submissionSteps p s = taken ++ .awaitReady cluster expected :: rest) :
    s.verifiesLiveState = true ∧ s.waitBeforeDependents = true ∧
      taken = [.submit (.cluster p.cluster)] := by
  have later {more : List Step} (h : dependents p = more ++ .awaitReady cluster expected :: rest) :
      False := by
    have member : Step.awaitReady cluster expected ∈ dependents p := by simp [h]
    rcases mem_dependents member with ⟨_, _, same⟩ | ⟨_, _, same⟩ <;> cases same
  rcases taken with _ | ⟨first, taken⟩ <;>
    simp only [submissionSteps, List.nil_append, List.cons_append, List.cons.injEq] at place
  · cases place.1
  obtain ⟨rfl, waits⟩ := place
  split at waits
  case isTrue both =>
    rw [Bool.and_eq_true] at both
    rcases taken with _ | ⟨second, taken⟩
    · exact ⟨both.1, both.2, rfl⟩
    · exact (later (List.cons.inj waits).2).elim
  case isFalse => exact (later waits).elim

/-! ### Trails -/

/-- The trail of a run with a failure, by the failure. -/
def Failure.Leaves (p : Plan) (s : Settings) (report : Report) : Failure → Prop
  | .invalidPlan _ | .submission .. | .notPersisted .. => report.trail = [.built, .failed]
  | .convergenceTimeout .. =>
    (report.trail = [.built, .failed] ∧ s.verifiesLiveState = true ∧
      s.waitBeforeDependents = true ∧ report.created = [p.cluster.ref]) ∨
    (report.trail = [.built, .submitted, .failed] ∧
      report.created = p.resources.map Resource.ref)
  | .workerVerification .. =>
    report.trail = [.built, .submitted, .converged, .perUnitVerifying, .failed]

variable {taken : List Step} {outcome : Except Failure Unit} {driven cleaned : List Call}
  {report : Report}

/-- A run that stops leaves one of three trails. -/
theorem Account.stopped {step : Step} {failure : Failure} {last : List Call}
    (a : Account t s p taken (.error failure) driven cleaned report)
    (stops : Stops p s taken step) (fails : step.Does t (.error failure) last) :
    (report.trail = [.built, .failed] ∨
      report.trail = [.built, .submitted, .failed] ∧ s.verifiesLiveState = true ∨
      report.trail = [.built, .submitted, .converged, .perUnitVerifying, .failed] ∧
        s.verifiesLiveState = true) ∧
      failure.Leaves p s report := by
  have trail := a.trail
  cases stops with
  | submitting place =>
    rw [phases_early place] at trail
    refine ⟨.inl trail, ?_⟩
    cases fails with
    | refused => exact trail
    | unpersisted => exact trail
    | unready =>
      obtain ⟨live, waits, rfl⟩ := early_wait place
      exact .inl ⟨trail, live, waits, a.created⟩
    | @unchecked request markers =>
      have member : Step.checkWorker request markers ∈ submissionSteps p s := by simp [place]
      rcases mem_submissionSteps member with ⟨_, _, same⟩ | same | ⟨_, _, same⟩ <;> cases same
  | converging live =>
    rw [phases_submitted] at trail
    refine ⟨.inr (.inl ⟨trail, live⟩), ?_⟩
    unfold awaitWorkers at fails
    cases fails
    refine .inr ⟨trail, ?_⟩
    rw [a.created, List.filterMap_append, refs_submissionSteps]
    exact List.append_nil _
  | verifying live =>
    rw [phases_verifying] at trail
    refine ⟨.inr (.inr ⟨trail, live⟩), ?_⟩
    unfold check at fails
    cases fails
    exact trail

/-- A run that gets through all steps leaves one of two trails. -/
theorem Account.finished (a : Account t s p (steps p s) (.ok ()) driven cleaned report) :
    report.trail = [.built, .submitted, .cleanedUp] ∧ s.verifiesLiveState = false ∨
      report.trail =
          [.built, .submitted, .converged, .perUnitVerifying, .verified, .cleanedUp] ∧
        s.verifiesLiveState = true := by
  have trail := a.trail
  rw [phases_steps] at trail
  cases live : s.verifiesLiveState with
  | false =>
    rw [live] at trail
    exact .inl ⟨trail, rfl⟩
  | true =>
    rw [live] at trail
    exact .inr ⟨trail, rfl⟩

theorem Account.finalPhase_eq (a : Account t s p taken outcome driven cleaned report) :
    report.finalPhase = lastPhase outcome := by
  rw [Report.finalPhase, a.trail, List.getLast?_concat]
  rfl

/-- No step enters the last phase of a failed run. -/
theorem Account.reached_failed (a : Account t s p taken outcome driven cleaned report) :
    report.reached .failed = true ↔ lastPhase outcome = .failed := by
  have entered : .failed ∉ taken.filterMap Step.phase? := by
    intro member
    have all := (a.drives.begins.filterMap Step.phase?).subset member
    rw [phases_steps] at all
    split at all <;> simp at all
  simp [Report.reached, a.trail, entered, eq_comm]

/-- The trail of a run is one of five, of which one needs a run without a live state to verify and
three need one with it; it tells whether the run passed, and the failure tells which it is. -/
theorem run_trail (b : Backend σ) (t : Timing) (s : Settings) (p : Plan) (w : World σ) :
    Reports t ((run b t s p).run w) fun report =>
      (report.trail = [.built, .failed] ∨
        report.trail = [.built, .submitted, .cleanedUp] ∧ s.verifiesLiveState = false ∨
        report.trail = [.built, .submitted, .failed] ∧ s.verifiesLiveState = true ∨
        report.trail = [.built, .submitted, .converged, .perUnitVerifying, .failed] ∧
          s.verifiesLiveState = true ∨
        report.trail =
            [.built, .submitted, .converged, .perUnitVerifying, .verified, .cleanedUp] ∧
          s.verifiesLiveState = true) ∧
        (report.passed = true ↔ report.finalPhase = .cleanedUp) ∧
        (report.passed = true ↔ report.reached .failed = false) ∧
        ∀ failure, report.failure = some failure → failure.Leaves p s report := by
  refine reports_of fun report reported => ?_
  obtain ⟨taken, outcome, driven, cleaned, -, account⟩ := run_account b t s p reported
  refine ⟨?trails, ?final, ?reached, ?leaves⟩
  case final =>
    rw [account.passed_iff, account.finalPhase_eq]
    rcases outcome with failure | ⟨⟩ <;> simp [lastPhase]
  case reached =>
    rw [account.passed_iff, ← Bool.not_eq_true, account.reached_failed]
    rcases outcome with failure | ⟨⟩ <;> simp [lastPhase]
  all_goals
    rcases account.drives.cases with
      ⟨e, rfl, rfl⟩ | ⟨rfl, rfl⟩ | ⟨failure, step, last, rfl, stops, fails⟩
  · exact .inl account.trail
  · exact account.finished.elim (.inr ∘ .inl) (.inr ∘ .inr ∘ .inr ∘ .inr)
  · rcases (account.stopped stops fails).1 with early | waiting | checking
    · exact .inl early
    · exact .inr (.inr (.inl waiting))
    · exact .inr (.inr (.inr (.inl checking)))
  all_goals
    rintro _ same
    rw [account.failure] at same
    cases same
  · exact account.trail
  · exact (account.stopped stops fails).2

end BrokerRollout.Scenario
