import BrokerRollout.Probe.Convergence
import BrokerRollout.Probe.Worker

/-!
# Reports

A run goes through phases and ends with a report of what it created, what it verified, what it
could not delete again, and why it failed if it did.
-/

namespace BrokerRollout.Scenario

/-- The phases of a run. -/
inductive Phase where
  | built
  | submitted
  | converged
  | perUnitVerifying
  | verified
  | cleanedUp
  | failed
deriving DecidableEq

namespace Phase

def name : Phase → String
  | .built => "Built"
  | .submitted => "Submitted"
  | .converged => "Converged"
  | .perUnitVerifying => "PerUnitVerifying"
  | .verified => "Verified"
  | .cleanedUp => "CleanedUp"
  | .failed => "Failed"

def all : List Phase :=
  [.built, .submitted, .converged, .perUnitVerifying, .verified, .cleanedUp, .failed]

end Phase

/-- Why a run failed. -/
inductive Failure where
  | invalidPlan (error : SpecError)
  | submission (ref : Ref) (error : Store.Error)
  | notPersisted (ref : Ref) (exhausted : Exhausted NotConverged)
  | convergenceTimeout (expected : Nat) (lastObserved : Option Nat)
      (exhausted : Exhausted NotConverged)
  | workerVerification (worker : String) (exhausted : Exhausted WorkerError)
deriving DecidableEq

def Failure.message : Failure → String
  | .invalidPlan error => "invalid plan: " ++ error.message
  | .submission ref error => "submitting " ++ ref.text ++ " failed: " ++ error.message
  | .notPersisted ref exhausted =>
    ref.text ++ " was never persisted: " ++ exhausted.message NotConverged.message
  | .convergenceTimeout expected lastObserved exhausted =>
    "cluster did not reach " ++ toString expected ++ " ready workers (last observed "
      ++ Text.optional (lastObserved.map toString) ++ "): "
      ++ exhausted.message NotConverged.message
  | .workerVerification worker exhausted =>
    "worker " ++ worker ++ " failed verification: " ++ exhausted.message WorkerError.message

/-- A resource that was created and could not be deleted. -/
structure CleanupError where
  ref : Ref
  error : Store.Error
deriving DecidableEq

def CleanupError.message (e : CleanupError) : String :=
  "deleting " ++ e.ref.text ++ " failed: " ++ e.error.message

/-- What happened during a run. -/
structure Report where
  /-- The phases entered, in order. -/
  trail : List Phase := [.built]
  /-- The resources created, in order. -/
  created : List Ref := []
  /-- The workers that passed their check, in order. -/
  verifiedWorkers : List String := []
  /-- The resources deleted in the end, in order. -/
  deleted : List Ref := []
  cleanupErrors : List CleanupError := []
  failure : Option Failure := none
deriving DecidableEq

namespace Report

def enter (phase : Phase) (r : Report) : Report := { r with trail := r.trail ++ [phase] }

def passed (r : Report) : Bool := r.failure.isNone

def finalPhase (r : Report) : Phase := r.trail.getLast?.getD .built

def reached (r : Report) (phase : Phase) : Bool := phase ∈ r.trail

end Report

end BrokerRollout.Scenario
