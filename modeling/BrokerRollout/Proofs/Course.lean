import BrokerRollout.Proofs.Polling
import BrokerRollout.Proofs.Steps

/-!
# The course of a run

`take_submit` and its siblings say what a step is made of, and `Step.Does` how it can end, and with
which calls. A run takes steps up to the first that fails: `Course` says which, and which calls they
made. What a run reports follows from the steps taken, and what it deletes from its report. A step
may also panic, and then the run stops there (`Interrupted`). Main statement: every run has a course
and an account of it, or is interrupted (`run_acts`).
-/

namespace BrokerRollout.Scenario

variable {σ : Type} {b : Backend σ} {t : Timing} {p : Plan} {s : Settings}

/-! ### One step -/

/-- How a step ends: with these calls, and well or with a failure. -/
inductive Step.Does (t : Timing) : Step → Except Failure Unit → List Call → Prop where
  | created (resource : Resource) :
      Does t (.submit resource) (.ok ()) [.create resource (.ok ())]
  | refused (resource : Resource) (e : Store.Error) :
      Does t (.submit resource) (.error (.submission resource.ref e)) [.create resource (.error e)]
  | ready {cluster : Ref} {expected : Nat} {found : Store.Observation}
      {answers : List ReadAnswer}
      (ends : (ReadyProbe.sampling cluster expected).Ends t.convergence 0 (.ok found) answers) :
      Does t (.awaitReady cluster expected) (.ok ()) (answers.map (.get cluster))
  | unready {cluster : Ref} {expected : Nat} {exhausted : Exhausted NotConverged}
      {answers : List ReadAnswer}
      (ends : (ReadyProbe.sampling cluster expected).Ends t.convergence 0 (.error exhausted)
        answers) :
      Does t (.awaitReady cluster expected)
        (.error (.convergenceTimeout expected (lastReady answers) exhausted))
        (answers.map (.get cluster))
  | persisted {ref : Ref} {found : Store.Observation} {answers : List ReadAnswer}
      (ends : (PersistedProbe.sampling ref).Ends t.persistence 0 (.ok found) answers) :
      Does t (.awaitPersisted ref) (.ok ()) (answers.map (.get ref))
  | unpersisted {ref : Ref} {exhausted : Exhausted NotConverged} {answers : List ReadAnswer}
      (ends : (PersistedProbe.sampling ref).Ends t.persistence 0 (.error exhausted) answers) :
      Does t (.awaitPersisted ref) (.error (.notPersisted ref exhausted)) (answers.map (.get ref))
  | entered (phase : Phase) : Does t (.enter phase) (.ok ()) []
  | checked {request : Exec.Request} {markers : List String} {output : Exec.Output}
      {answers : List (Except Exec.Error Exec.Session)}
      (ends : (WorkerProbe.sampling request markers).Ends t.worker 0 (.ok output) answers) :
      Does t (.checkWorker request markers) (.ok ()) (answers.map (.openSession request))
  | unchecked {request : Exec.Request} {markers : List String} {exhausted : Exhausted WorkerError}
      {answers : List (Except Exec.Error Exec.Session)}
      (ends : (WorkerProbe.sampling request markers).Ends t.worker 0 (.error exhausted) answers) :
      Does t (.checkWorker request markers)
        (.error (.workerVerification request.worker exhausted))
        (answers.map (.openSession request))

/-- A step panics with these calls: it waits for something, and comes to an attempt that it cannot
make. -/
inductive Step.Panics (t : Timing) : Step → Panic → List Call → Prop where
  | unready {cluster : Ref} {expected : Nat} {panic : Panic} {answers : List ReadAnswer}
      (stuck : (ReadyProbe.sampling cluster expected).Panics t.convergence 0 panic answers) :
      Panics t (.awaitReady cluster expected) panic (answers.map (.get cluster))
  | unpersisted {ref : Ref} {panic : Panic} {answers : List ReadAnswer}
      (stuck : (PersistedProbe.sampling ref).Panics t.persistence 0 panic answers) :
      Panics t (.awaitPersisted ref) panic (answers.map (.get ref))
  | unchecked {request : Exec.Request} {markers : List String} {panic : Panic}
      {answers : List (Except Exec.Error Exec.Session)}
      (stuck : (WorkerProbe.sampling request markers).Panics t.worker 0 panic answers) :
      Panics t (.checkWorker request markers) panic (answers.map (.openSession request))

/-- What a step comes to with these calls. -/
def Step.Comes (t : Timing) (step : Step) (ended : Except Panic (Except Failure Unit))
    (calls : List Call) : Prop :=
  match ended with
  | .ok outcome => step.Does t outcome calls
  | .error panic => step.Panics t panic calls

/-- The report after a step was taken. -/
def Step.record (r : Report) : Step → Report
  | .submit resource => { r with created := r.created ++ [resource.ref] }
  | .enter phase => r.enter phase
  | .checkWorker request _ => { r with verifiedWorkers := r.verifiedWorkers ++ [request.worker] }
  | .awaitReady .. | .awaitPersisted _ => r

/-- A step that does not get through leaves the report as it was. -/
def Step.recordIf (r : Report) (step : Step) : Except Panic (Except Failure Unit) → Report
  | .ok (.ok ()) => step.record r
  | _ => r

/-- The end of a step that waits, by the end of its poll. -/
def waited {ε α : Type} (fail : Exhausted ε → Failure) :
    Poll.Ending ε α → Except Panic (Except Failure Unit)
  | .ok (.ok _) => .ok (.ok ())
  | .ok (.error e) => .ok (.error (fail e))
  | .error panic => .error panic

theorem take_submit (b : Backend σ) (t : Timing) (resource : Resource) (r : Report) :
    (take b t (.submit resource)).run r = Sim.create b.store resource >>= fun answer => pure
      (match answer with
      | .ok () => (.ok (.ok ()), (Step.submit resource).record r)
      | .error e => (.ok (.error (.submission resource.ref e)), r)) := by
  simp only [take, StateT.run_bind, StateT.run_monadLift, monadLift_self, bind_assoc, pure_bind]
  refine congrArg (Sim.create b.store resource >>= ·) (funext fun answer => ?_)
  rcases answer with e | ⟨⟩ <;> rfl

theorem take_awaitReady (b : Backend σ) (t : Timing) (cluster : Ref) (expected : Nat) (r : Report) :
    (take b t (.awaitReady cluster expected)).run r =
      (Poll.run t.convergence (ReadyProbe.attempt b.store)).run { cluster, expected } >>=
        fun polled =>
          pure (waited (.convergenceTimeout expected polled.2.lastObserved) polled.1, r) := by
  simp only [take, StateT.run_bind, StateT.run_monadLift, monadLift_self, bind_assoc, pure_bind]
  refine congrArg (_ >>= ·) (funext fun result => ?_)
  rcases result with ⟨panic | e | found, probe⟩ <;> rfl

theorem take_awaitPersisted (b : Backend σ) (t : Timing) (ref : Ref) (r : Report) :
    (take b t (.awaitPersisted ref)).run r =
      (Poll.run t.persistence (PersistedProbe.attempt b.store)).run { ref } >>= fun polled =>
        pure (waited (.notPersisted ref) polled.1, r) := by
  simp only [take, StateT.run'_eq, StateT.run_bind, StateT.run_monadLift, monadLift_self,
    bind_assoc, pure_bind, bind_map_left]
  refine congrArg (_ >>= ·) (funext fun result => ?_)
  rcases result with ⟨panic | e | found, probe⟩ <;> rfl

theorem take_checkWorker (b : Backend σ) (t : Timing) (request : Exec.Request)
    (markers : List String) (r : Report) :
    (take b t (.checkWorker request markers)).run r =
      (Poll.run t.worker (WorkerProbe.attempt b.endpoint)).run { request, markers } >>=
        fun polled =>
          let came := waited (.workerVerification request.worker) polled.1
          pure (came, (Step.checkWorker request markers).recordIf r came) := by
  simp only [take, StateT.run'_eq, StateT.run_bind, StateT.run_monadLift, monadLift_self,
    bind_assoc, pure_bind, bind_map_left]
  refine congrArg (_ >>= ·) (funext fun result => ?_)
  rcases result with ⟨panic | e | output, probe⟩ <;> rfl

theorem take_acts (b : Backend σ) (t : Timing) (step : Step) (r : Report) :
    Sim.Acts b ((take b t step).run r) fun result calls =>
      step.Comes t result.1 calls ∧ result.2 = step.recordIf r result.1 := by
  cases step with
  | submit resource =>
    rw [take_submit]
    refine (Sim.create_acts b resource).bind_pure ?_
    rintro (e | ⟨⟩) _ rfl
    · exact ⟨_, rfl, Step.Does.refused resource e, rfl⟩
    · exact ⟨_, rfl, Step.Does.created resource, rfl⟩
  | awaitReady cluster expected =>
    rw [take_awaitReady]
    have polled := Poll.run_acts (ReadyProbe.sampling_describes b cluster expected) t.convergence
    refine polled.bind_pure ?_
    rintro ⟨panic | exhausted | found, probe⟩ _ ⟨answers, rfl, ends, rfl⟩
    · exact ⟨_, rfl, Step.Panics.unready ends, rfl⟩
    · exact ⟨_, rfl, Step.Does.unready ends, rfl⟩
    · exact ⟨_, rfl, Step.Does.ready ends, rfl⟩
  | awaitPersisted ref =>
    rw [take_awaitPersisted]
    have polled := Poll.run_acts (PersistedProbe.sampling_describes b ref) t.persistence
    refine polled.bind_pure ?_
    rintro ⟨panic | exhausted | found, probe⟩ _ ⟨answers, rfl, ends, rfl⟩
    · exact ⟨_, rfl, Step.Panics.unpersisted ends, rfl⟩
    · exact ⟨_, rfl, Step.Does.unpersisted ends, rfl⟩
    · exact ⟨_, rfl, Step.Does.persisted ends, rfl⟩
  | enter phase => exact Sim.Acts.pure ⟨Step.Does.entered phase, rfl⟩
  | checkWorker request markers =>
    rw [take_checkWorker]
    have polled := Poll.run_acts (WorkerProbe.sampling_describes b request markers) t.worker
    refine polled.bind_pure ?_
    rintro ⟨panic | exhausted | output, probe⟩ _ ⟨answers, rfl, ends, rfl⟩
    · exact ⟨_, rfl, Step.Panics.unchecked ends, rfl⟩
    · exact ⟨_, rfl, Step.Does.unchecked ends, rfl⟩
    · exact ⟨_, rfl, Step.Does.checked ends, rfl⟩

/-! ### Steps in order -/

variable {planned taken : List Step} {outcome : Except Failure Unit} {failure : Failure}
  {calls driven cleaned : List Call} {report : Report}

/-- The report after some more steps were taken. -/
def Report.record (r : Report) (taken : List Step) : Report :=
  { r with
    trail := r.trail ++ taken.filterMap Step.phase?
    created := r.created ++ taken.filterMap Step.ref?
    verifiedWorkers := r.verifiedWorkers ++ taken.filterMap Step.worker? }

@[simp] theorem Report.record_nil (r : Report) : r.record [] = r := by
  simp [record]

theorem Report.record_cons (r : Report) (step : Step) (taken : List Step) :
    r.record (step :: taken) = (step.record r).record taken := by
  cases step <;>
    simp [record, Step.record, enter, List.filterMap_cons, Step.phase?, Step.ref?, Step.worker?]

/-- Takes steps up to the first that fails: the steps taken, how it ends, and the calls. -/
inductive Course (t : Timing) : List Step → List Step → Except Failure Unit → List Call → Prop where
  | arrived : Course t [] [] (.ok ()) []
  | passed {step : Step} {rest taken : List Step} {outcome : Except Failure Unit}
      {calls more : List Call} (here : step.Does t (.ok ()) calls)
      (later : Course t rest taken outcome more) :
      Course t (step :: rest) (step :: taken) outcome (calls ++ more)
  | stopped {step : Step} {rest : List Step} {failure : Failure} {calls : List Call}
      (here : step.Does t (.error failure) calls) :
      Course t (step :: rest) [] (.error failure) calls

/-- Takes steps up to one that panics: the steps taken, and the calls. -/
inductive Interrupted (t : Timing) : List Step → List Step → Panic → List Call → Prop where
  | here {step : Step} {rest : List Step} {panic : Panic} {calls : List Call}
      (panics : step.Panics t panic calls) : Interrupted t (step :: rest) [] panic calls
  | passed {step : Step} {rest taken : List Step} {panic : Panic} {calls more : List Call}
      (here : step.Does t (.ok ()) calls) (later : Interrupted t rest taken panic more) :
      Interrupted t (step :: rest) (step :: taken) panic (calls ++ more)

/-- What steps in order come to: the steps taken, the end and the calls. -/
def Coming (t : Timing) (planned taken : List Step) (ended : Except Panic (Except Failure Unit))
    (calls : List Call) : Prop :=
  match ended with
  | .ok outcome => Course t planned taken outcome calls
  | .error panic => Interrupted t planned taken panic calls

theorem takeAll_acts (b : Backend σ) (t : Timing) (steps : List Step) (r : Report) :
    Sim.Acts b ((takeAll b t steps).run r) fun result calls =>
      ∃ taken, Coming t steps taken result.1 calls ∧ result.2 = r.record taken := by
  induction steps generalizing r with
  | nil => exact Sim.Acts.pure ⟨[], Course.arrived, r.record_nil.symm⟩
  | cons step rest ih =>
    rw [takeAll, StateT.run_bind]
    refine (take_acts b t step r).bind ?_
    rintro ⟨panic | failure | ⟨⟩, recorded⟩ calls ⟨comes, same⟩
    · refine Sim.Acts.pure ⟨[], ?_, same.trans r.record_nil.symm⟩
      rw [List.append_nil]
      exact Interrupted.here comes
    · refine Sim.Acts.pure ⟨[], ?_, same.trans r.record_nil.symm⟩
      rw [List.append_nil]
      exact Course.stopped comes
    · obtain rfl : recorded = step.record r := same
      refine (ih (step.record r)).mono ?_
      rintro ⟨panic | outcome, recorded⟩ more ⟨taken, later, same⟩
      · have passed : Interrupted t (step :: rest) (step :: taken) panic (calls ++ more) :=
          .passed comes later
        exact ⟨step :: taken, passed, same.trans (r.record_cons step taken).symm⟩
      · have passed : Course t (step :: rest) (step :: taken) outcome (calls ++ more) :=
          .passed comes later
        exact ⟨step :: taken, passed, same.trans (r.record_cons step taken).symm⟩

/-- An interrupted run has come to a step that panics with the last of its calls. -/
theorem Interrupted.split {panic : Panic} (h : Interrupted t planned taken panic calls) :
    ∃ step rest before last, planned = taken ++ step :: rest ∧ calls = before ++ last ∧
      Course t taken taken (.ok ()) before ∧ step.Panics t panic last := by
  induction h with
  | @here step rest panic calls panics =>
    exact ⟨step, rest, [], calls, rfl, rfl, .arrived, panics⟩
  | @passed step rest taken panic calls more here _ ih =>
    obtain ⟨stuck, rest, before, last, rfl, rfl, course, panics⟩ := ih
    exact ⟨stuck, rest, calls ++ before, last, rfl, (List.append_assoc ..).symm,
      .passed here course, panics⟩

/-- A course that arrives has taken all steps, and one that is stopped has come to a step that
fails with the last of its calls. -/
theorem Course.split (h : Course t planned taken outcome calls) :
    (outcome = .ok () ∧ planned = taken) ∨
      ∃ failure step rest before last, outcome = .error failure ∧ planned = taken ++ step :: rest ∧
        calls = before ++ last ∧ Course t taken taken (.ok ()) before ∧
        step.Does t (.error failure) last := by
  induction h with
  | arrived => exact .inl ⟨rfl, rfl⟩
  | @stopped step rest failure calls here =>
    exact .inr ⟨failure, step, rest, [], calls, rfl, rfl, rfl, .arrived, here⟩
  | @passed step rest taken outcome calls more here _ ih =>
    rcases ih with ⟨rfl, rfl⟩ | ⟨failure, stuck, rest, before, last, rfl, rfl, rfl, course, fails⟩
    · exact .inl ⟨rfl, rfl⟩
    · exact .inr ⟨failure, stuck, rest, calls ++ before, last, rfl, rfl,
        (List.append_assoc ..).symm, .passed here course, fails⟩

theorem Course.begins (h : Course t planned taken outcome calls) : taken <+: planned := by
  rcases h.split with ⟨_, rfl⟩ | ⟨_, step, rest, _, _, _, rfl, _⟩
  · exact List.prefix_rfl
  · exact List.prefix_append taken (step :: rest)

/-! ### What a course creates -/

/-- The resource that a call has created. -/
def createdBy : Call → Option Ref
  | .create resource (.ok ()) => some resource.ref
  | _ => none

theorem Step.Does.creates {step : Step} (h : step.Does t outcome calls) :
    calls.filterMap createdBy = match outcome with
      | .ok () => step.ref?.toList
      | .error _ => [] := by
  cases h <;> simp [createdBy, ref?, List.filterMap_map, Function.comp_def, List.filterMap_cons]

theorem Course.creates (h : Course t planned taken outcome calls) :
    calls.filterMap createdBy = taken.filterMap Step.ref? := by
  induction h with
  | arrived => rfl
  | @passed step rest taken outcome calls more here _ ih =>
    rw [List.filterMap_append, here.creates, ih]
    cases step <;> rfl
  | stopped here => exact here.creates

/-! ### Whole runs -/

/-- How a run gets through its steps; an invalid plan has none. -/
inductive Drives (t : Timing) (s : Settings) (p : Plan) :
    List Step → Except Failure Unit → List Call → Prop where
  | invalid {e : SpecError} (fault : p.validate = .error e) :
      Drives t s p [] (.error (.invalidPlan e)) []
  | valid {taken : List Step} {outcome : Except Failure Unit} {calls : List Call}
      (sound : p.validate = .ok ()) (course : Course t (steps p s) taken outcome calls) :
      Drives t s p taken outcome calls

theorem Drives.begins (h : Drives t s p taken outcome calls) : taken <+: steps p s := by
  cases h with
  | invalid => exact List.nil_prefix
  | valid _ course => exact course.begins

theorem Drives.all_taken (h : Drives t s p taken (.ok ()) calls) : taken = steps p s := by
  cases h with
  | valid _ course =>
    rcases course.split with ⟨-, all⟩ | ⟨_, _, _, _, _, ends, -⟩
    · exact all.symm
    · cases ends

theorem Drives.arrived (h : Drives t s p taken (.ok ()) calls) :
    Course t (steps p s) (steps p s) (.ok ()) calls := by
  have all := h.all_taken
  cases h with
  | valid _ course => rwa [all] at course

/-- A run of a valid plan that fails has come to a step that fails. -/
theorem Drives.stopped (h : Drives t s p taken (.error failure) calls)
    (valid : p.validate = .ok ()) :
    ∃ step rest before last, steps p s = taken ++ step :: rest ∧ calls = before ++ last ∧
      Course t taken taken (.ok ()) before ∧ step.Does t (.error failure) last := by
  cases h with
  | invalid fault => cases valid.symm.trans fault
  | valid _ course =>
    rcases course.split with ⟨ends, -⟩ | ⟨_, step, rest, before, last, ends, found⟩
    · cases ends
    · cases ends
      exact ⟨step, rest, before, last, found⟩

theorem Drives.creates (h : Drives t s p taken outcome calls) :
    calls.filterMap createdBy = taken.filterMap Step.ref? := by
  cases h with
  | invalid => rfl
  | valid _ course => exact course.creates

/-- How a run gets through its steps, if it does. -/
def Driving (t : Timing) (s : Settings) (p : Plan) (taken : List Step)
    (ended : Except Panic (Except Failure Unit)) (calls : List Call) : Prop :=
  match ended with
  | .ok outcome => Drives t s p taken outcome calls
  | .error panic => p.validate = .ok () ∧ Interrupted t (steps p s) taken panic calls

theorem drive_acts (b : Backend σ) (t : Timing) (s : Settings) (p : Plan) (r : Report) :
    Sim.Acts b ((drive b t s p).run r) fun result calls =>
      ∃ taken, Driving t s p taken result.1 calls ∧ result.2 = r.record taken := by
  unfold drive
  cases validated : p.validate with
  | error e => exact Sim.Acts.pure ⟨[], Drives.invalid validated, r.record_nil.symm⟩
  | ok _ =>
    refine (takeAll_acts b t (steps p s) r).mono ?_
    rintro ⟨panic | outcome, recorded⟩ calls ⟨taken, comes, same⟩
    · exact ⟨taken, ⟨validated, comes⟩, same⟩
    · exact ⟨taken, Drives.valid validated comes, same⟩

/-- The resource that a call has deleted. -/
def deletedBy : Call → Option Ref
  | .delete ref (.ok ()) => some ref
  | _ => none

/-- The resource that a call has failed to delete, and why. -/
def undeletedBy : Call → Option CleanupError
  | .delete ref (.error error) => some { ref, error }
  | _ => none

def Report.recordDeletions (r : Report) (calls : List Call) : Report :=
  { r with
    deleted := r.deleted ++ calls.filterMap deletedBy
    cleanupErrors := r.cleanupErrors ++ calls.filterMap undeletedBy }

theorem cleanUp_acts (b : Backend σ) (refs : List Ref) (r : Report) :
    Sim.Acts b ((cleanUp b refs).run r) fun result calls =>
      calls.map Call.ask = refs.map .delete ∧ result.2 = r.recordDeletions calls := by
  induction refs generalizing r with
  | nil => exact Sim.Acts.pure ⟨rfl, by simp [Report.recordDeletions]⟩
  | cons ref rest ih =>
    simp only [cleanUp, StateT.run_bind, StateT.run_monadLift, monadLift_self, bind_assoc,
      pure_bind]
    refine (Sim.delete_acts b ref).bind ?_
    rintro (error | ⟨⟩) _ rfl <;> refine (ih _).mono ?_
    · rintro ⟨⟨⟩, left⟩ more ⟨asked, rfl⟩
      refine ⟨congrArg (_ :: ·) asked, ?_⟩
      simp [Report.recordDeletions, List.filterMap_cons, deletedBy, undeletedBy]
    · rintro ⟨⟨⟩, left⟩ more ⟨asked, rfl⟩
      refine ⟨congrArg (_ :: ·) asked, ?_⟩
      simp [Report.recordDeletions, List.filterMap_cons, deletedBy, undeletedBy]

def lastPhase : Except Failure Unit → Phase
  | .ok () => .cleanedUp
  | .error _ => .failed

def failure? : Except Failure Unit → Option Failure
  | .ok () => none
  | .error failure => some failure

/-- The report at the end of a run, but for the deletions. -/
def Report.conclude (r : Report) (outcome : Except Failure Unit) : Report :=
  { r with trail := r.trail ++ [lastPhase outcome], failure := failure? outcome }

theorem run_eq (b : Backend σ) (t : Timing) (s : Settings) (p : Plan) :
    run b t s p = (drive b t s p).run {} >>= fun driven =>
      match driven.1 with
      | .ok outcome =>
        (finish b outcome).run driven.2 >>= fun finished => pure (.ok finished.2)
      | .error panic => pure (.error panic) := by
  simp only [run, perform, StateT.run_bind, bind_assoc]
  refine congrArg (_ >>= ·) (funext fun driven => ?_)
  rcases driven with ⟨panic | outcome, report⟩
  · rfl
  · simp only [StateT.run_bind, bind_assoc]
    rfl

theorem finish_acts (b : Backend σ) (outcome : Except Failure Unit) {r : Report}
    (unfailed : r.failure = none) :
    Sim.Acts b ((finish b outcome).run r) fun result calls =>
      calls.map Call.ask = r.created.reverse.map .delete ∧
        result.2 = (r.conclude outcome).recordDeletions calls := by
  rcases outcome with failure | ⟨⟩ <;>
    simp only [finish, StateT.run_bind, StateT.run_modify, StateT.run_get, pure_bind]
  · refine (cleanUp_acts b _ _).bind_pure ?_
    rintro ⟨⟨⟩, left⟩ calls ⟨asked, rfl⟩
    exact ⟨_, rfl, asked, rfl⟩
  · refine (cleanUp_acts b _ r).bind_pure ?_
    rintro ⟨⟨⟩, left⟩ calls ⟨asked, rfl⟩
    have passed : (r.recordDeletions calls).passed = true := by
      simp [Report.passed, Report.recordDeletions, unfailed]
    rw [if_pos passed]
    refine ⟨_, rfl, asked, ?_⟩
    simp [Report.conclude, Report.recordDeletions, Report.enter, unfailed, lastPhase, failure?]

/-- The account of a run: the steps it took and how they ended, the calls they made and those of
the clean-up, and what the report says of all that. -/
structure Account (t : Timing) (s : Settings) (p : Plan) (taken : List Step)
    (outcome : Except Failure Unit) (driven cleaned : List Call) (report : Report) : Prop where
  drives : Drives t s p taken outcome driven
  cleans : cleaned.map Call.ask = report.created.reverse.map .delete
  trail : report.trail = .built :: taken.filterMap Step.phase? ++ [lastPhase outcome]
  created : report.created = taken.filterMap Step.ref?
  verified : report.verifiedWorkers = taken.filterMap Step.worker?
  deleted : report.deleted = cleaned.filterMap deletedBy
  undeleted : report.cleanupErrors = cleaned.filterMap undeletedBy
  failure : report.failure = failure? outcome

theorem Account.passed_iff (a : Account t s p taken outcome driven cleaned report) :
    report.passed = true ↔ outcome = .ok () := by
  rw [Report.passed, a.failure]
  rcases outcome with failure | ⟨⟩ <;> simp [failure?]

theorem Account.creates (a : Account t s p taken outcome driven cleaned report) :
    report.created = driven.filterMap createdBy :=
  a.created.trans a.drives.creates.symm

theorem Account.cleaned_asks (a : Account t s p taken outcome driven cleaned report) {c : Call}
    (member : c ∈ cleaned) : ∃ ref, c.ask = .delete ref := by
  have asked := List.mem_map_of_mem (f := Call.ask) member
  rw [a.cleans] at asked
  obtain ⟨ref, -, same⟩ := List.mem_map.1 asked
  exact ⟨ref, same.symm⟩

/-- What a run comes to with these calls: a report, with an account of it, or a panic. -/
def Recounted (t : Timing) (s : Settings) (p : Plan) (ended : Except Panic Report)
    (calls : List Call) : Prop :=
  match ended with
  | .ok report => ∃ taken outcome driven cleaned,
      calls = driven ++ cleaned ∧ Account t s p taken outcome driven cleaned report
  | .error panic => ∃ taken, p.validate = .ok () ∧ Interrupted t (steps p s) taken panic calls

theorem run_acts (b : Backend σ) (t : Timing) (s : Settings) (p : Plan) :
    Sim.Acts b (run b t s p) (Recounted t s p) := by
  rw [run_eq]
  refine (drive_acts b t s p {}).bind ?_
  rintro ⟨panic | outcome, recorded⟩ driven ⟨taken, drives, rfl : recorded = _⟩
  · refine Sim.Acts.pure ⟨taken, ?_⟩
    rwa [List.append_nil]
  · refine (finish_acts b outcome rfl).bind_pure ?_
    rintro ⟨⟨⟩, final⟩ cleaned ⟨asked, rfl⟩
    refine ⟨_, rfl, taken, outcome, driven, cleaned, rfl, ?_⟩
    exact ⟨drives, asked, rfl, rfl, rfl, rfl, rfl, rfl⟩

/-- A run with a report has an account of it. -/
theorem run_account (b : Backend σ) (t : Timing) (s : Settings) (p : Plan) {w : World σ}
    {report : Report} (reported : ((run b t s p).run w).1 = .ok report) :
    ∃ taken outcome driven cleaned, (run b t s p).callsOf w = driven ++ cleaned ∧
      Account t s p taken outcome driven cleaned report := by
  have recounted := (run_acts b t s p).callsOf w
  rwa [reported] at recounted

/-- No answer in the journal of a run is made up: the backend gave it at some time in some state. -/
theorem run_answered (b : Backend σ) (t : Timing) (s : Settings) (p : Plan) (w : World σ) {c : Call}
    (member : c ∈ (run b t s p).callsOf w) : ∃ now state, c = (b.reply now state c.ask).answer :=
  ((run_acts b t s p).history w).answered member

end BrokerRollout.Scenario
