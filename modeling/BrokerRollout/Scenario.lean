import BrokerRollout.Plan
import BrokerRollout.Scenario.Report
import BrokerRollout.Settings

/-!
# Scenarios

A scenario is a plan cut into steps: submit a resource, wait for it, enter a phase, check a worker.
A run takes the steps in order up to the first that fails, and then deletes what it created, the
newest first. A panic in one of its waits ends all that, and leaves neither a report nor the time to
delete anything.
-/

namespace BrokerRollout.Scenario

/-- One step of a run. -/
inductive Step where
  | submit (resource : Resource)
  | awaitReady (cluster : Ref) (expected : Nat)
  | awaitPersisted (ref : Ref)
  | enter (phase : Phase)
  | checkWorker (request : Exec.Request) (markers : List String)
deriving DecidableEq

/-- Waiting for all workers of the cluster. -/
def awaitWorkers (p : Plan) : Step := .awaitReady p.cluster.ref p.cluster.replicas

/-- The steps that submit the plan. -/
def submission (p : Plan) (waitForWorkers : Bool) : List Step :=
  [.submit (.cluster p.cluster)]
    ++ (if waitForWorkers then [awaitWorkers p] else [])
    ++ p.security.toList.map (fun s => .submit (.security s))
    ++ p.addresses.flatMap (fun a => [.submit (.address a), .awaitPersisted a.ref])
    ++ [.enter .submitted]

/-- The steps that verify what was submitted. -/
def verification (p : Plan) : List Step :=
  [awaitWorkers p, .enter .converged, .enter .perUnitVerifying]
    ++ p.cluster.ordinalsDescending.map (fun o => .checkWorker (p.workerRequest o) p.markers)
    ++ [.enter .verified]

/-- All steps of a run; without a live state to verify it is over once all is submitted. -/
def steps (p : Plan) (s : Settings) : List Step :=
  submission p (s.verifiesLiveState && s.waitBeforeDependents)
    ++ if s.verifiesLiveState then verification p else []

variable {σ : Type}

/-- An activity that keeps a report. -/
abbrev Reporting (σ : Type) := StateT Report (Sim σ)

/-- Takes one step. -/
def take (b : Backend σ) (t : Timing) : Step → Reporting σ (Except Panic (Except Failure Unit))
  | .submit resource => do
    match ← (Sim.create b.store resource : Sim σ _) with
    | .ok () =>
      modify fun r => { r with created := r.created ++ [resource.ref] }
      return .ok (.ok ())
    | .error e => return .ok (.error (.submission resource.ref e))
  | .awaitReady cluster expected => do
    let poll := Poll.run t.convergence (ReadyProbe.attempt b.store)
    let (outcome, probe) ← (poll.run { cluster, expected } : Sim σ _)
    match outcome with
    | .ok (.ok _) => return .ok (.ok ())
    | .ok (.error e) => return .ok (.error (.convergenceTimeout expected probe.lastObserved e))
    | .error panic => return .error panic
  | .awaitPersisted ref => do
    let poll := Poll.run t.persistence (PersistedProbe.attempt b.store)
    match ← (poll.run' { ref } : Sim σ _) with
    | .ok (.ok _) => return .ok (.ok ())
    | .ok (.error e) => return .ok (.error (.notPersisted ref e))
    | .error panic => return .error panic
  | .enter phase => do
    modify (Report.enter phase)
    return .ok (.ok ())
  | .checkWorker request markers => do
    let poll := Poll.run t.worker (WorkerProbe.attempt b.endpoint)
    match ← (poll.run' { request, markers } : Sim σ _) with
    | .ok (.ok _) =>
      modify fun r => { r with verifiedWorkers := r.verifiedWorkers ++ [request.worker] }
      return .ok (.ok ())
    | .ok (.error e) => return .ok (.error (.workerVerification request.worker e))
    | .error panic => return .error panic

/-- Takes steps in order up to the first that fails or panics. -/
def takeAll (b : Backend σ) (t : Timing) :
    List Step → Reporting σ (Except Panic (Except Failure Unit))
  | [] => return .ok (.ok ())
  | step :: rest => do
    match ← take b t step with
    | .ok (.ok ()) => takeAll b t rest
    | .ok (.error e) => return .ok (.error e)
    | .error panic => return .error panic

/-- Validates the plan and takes its steps; an invalid plan has none. -/
def drive (b : Backend σ) (t : Timing) (s : Settings) (p : Plan) :
    Reporting σ (Except Panic (Except Failure Unit)) := do
  match p.validate with
  | .error e => return .ok (.error (.invalidPlan e))
  | .ok () => takeAll b t (steps p s)

/-- Deletes resources in order, and goes on after a failure. -/
def cleanUp (b : Backend σ) : List Ref → Reporting σ Unit
  | [] => return ()
  | ref :: rest => do
    match ← (Sim.delete b.store ref : Sim σ _) with
    | .ok () => modify fun r => { r with deleted := r.deleted ++ [ref] }
    | .error error =>
      modify fun r => { r with cleanupErrors := r.cleanupErrors ++ [{ ref, error }] }
    cleanUp b rest

/-- What is left to do when the steps are over. -/
def finish (b : Backend σ) (outcome : Except Failure Unit) : Reporting σ Unit := do
  if let .error e := outcome then
    modify fun r => { r.enter .failed with failure := some e }
  cleanUp b (← get).created.reverse
  if (← get).passed then modify (Report.enter .cleanedUp)

/-- A whole run. A failure does not end it early: the report tells the outcome, and what was created
has been deleted, or at least that was tried. -/
def perform (b : Backend σ) (t : Timing) (s : Settings) (p : Plan) :
    Reporting σ (Except Panic Unit) := do
  match ← drive b t s p with
  | .ok outcome =>
    finish b outcome
    return .ok ()
  | .error panic => return .error panic

/-- The report of a run, unless it panics. -/
def run (b : Backend σ) (t : Timing) (s : Settings) (p : Plan) : Sim σ (Except Panic Report) := do
  let (ended, report) ← (perform b t s p).run {}
  return ended.map fun () => report

end BrokerRollout.Scenario
