import BrokerRollout.Poll

/-!
# Checking workers

A probe of a worker runs one command in it and passes when the command succeeds and its output
holds every marker.
-/

namespace BrokerRollout

/-- The markers that do not occur in the text, in order. -/
def missingMarkers (text : String) (markers : List String) : List String :=
  markers.filter fun m => !Text.occursIn m.toList text.toList

/-- Why a worker's check failed, with what was captured. -/
inductive WorkerError where
  | exec (worker : String) (error : Exec.Error) (output : Exec.Output)
  | missingMarkers (worker : String) (missing : List String) (output : Exec.Output)
deriving DecidableEq

namespace WorkerError

def message : WorkerError → String
  | .exec worker error _ => worker ++ ": " ++ error.message
  | .missingMarkers worker missing _ =>
    worker ++ ": output is missing " ++ Text.quoteAll missing

/-- The half of the execution that failed; none for output without its markers. -/
def stage? : WorkerError → Option Exec.Stage
  | .exec _ error _ => some error.stage
  | .missingMarkers .. => none

def output : WorkerError → Exec.Output
  | .exec _ _ output => output
  | .missingMarkers _ _ output => output

end WorkerError

/-- A probe for the output of a command in a worker. -/
structure WorkerProbe where
  request : Exec.Request
  markers : List String
  attempts : Nat := 0
deriving DecidableEq

namespace WorkerProbe

variable {σ : Type}

/-- The verdict on what a command left behind. -/
def judge (request : Exec.Request) (markers : List String) (output : Exec.Output) :
    Except WorkerError Exec.Output :=
  match output.error with
  | some error => .error (.exec request.worker error output)
  | none =>
    match BrokerRollout.missingMarkers output.stdoutText markers with
    | [] => .ok output
    | missing => .error (.missingMarkers request.worker missing output)

/-- One run of the command. -/
def attempt (e : Exec.Endpoint σ) : Probing WorkerProbe σ (Except WorkerError Exec.Output) := do
  let p ← get
  set { p with attempts := p.attempts + 1 }
  let output ← (Sim.exec e p.request : Sim σ _)
  return judge p.request p.markers output

end WorkerProbe

end BrokerRollout
