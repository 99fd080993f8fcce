import BrokerRollout.Poll

/-!
# Waiting for resources

A probe of a cluster passes once as many workers as wanted are reported ready, no fewer and no
more; it remembers the count of the last read that found the cluster. A probe of a resource passes
once the resource is read back under its name.
-/

namespace BrokerRollout

/-- Why a resource is not in the state that is waited for. -/
inductive NotConverged where
  | missing (ref : Ref)
  | readyMismatch (ref : Ref) (expected observed : Nat)
  | nameMismatch (ref : Ref) (observed : String)
  | store (error : Store.Error)
deriving DecidableEq

namespace NotConverged

def message : NotConverged → String
  | .missing ref => ref.text ++ " not found"
  | .readyMismatch ref expected observed =>
    s!"{ref.text}: {observed} of {expected} workers ready"
  | .nameMismatch ref observed =>
    ref.text ++ ": persisted name '" ++ observed ++ "' does not match"
  | .store error => "read failed: " ++ error.message

/-- The ready count of the attempt, if it got that far. -/
def observedReady? : NotConverged → Option Nat
  | .readyMismatch _ _ observed => some observed
  | _ => none

end NotConverged

namespace Sim

variable {σ : Type}

/-- Reads a resource that has to be there. -/
def readExisting (s : Store σ) (ref : Ref) :
    Sim σ (Except NotConverged Store.Observation) := do
  match ← read s ref with
  | .ok (some found) => return .ok found
  | .ok none => return .error (.missing ref)
  | .error e => return .error (.store e)

end Sim

/-- A probe for the number of ready workers of a cluster. -/
structure ReadyProbe where
  cluster : Ref
  expected : Nat
  /-- The ready count of the last read that found the cluster. -/
  lastObserved : Option Nat := none
deriving DecidableEq

namespace ReadyProbe

variable {σ : Type}

/-- The probe as a record, for diagnostics. -/
def diagnostic (p : ReadyProbe) : String :=
  Text.record "ReadyWorkersProbe" [
    ("cluster", p.cluster.diagnostic),
    ("expected", toString p.expected),
    ("last_observed", Text.optional (p.lastObserved.map toString))]

/-- One look at the cluster. -/
def attempt (s : Store σ) : Probing ReadyProbe σ (Except NotConverged Store.Observation) := do
  let p ← get
  match ← (Sim.readExisting s p.cluster : Sim σ _) with
  | .error e => return .error e
  | .ok found =>
    set { p with lastObserved := some found.readyCount }
    if found.readyCount = p.expected then return .ok found
    else return .error (.readyMismatch p.cluster p.expected found.readyCount)

end ReadyProbe

/-- A probe for a resource that was created: it passes once the resource is read back under the
name it was created with. -/
structure PersistedProbe where
  ref : Ref
deriving DecidableEq

namespace PersistedProbe

variable {σ : Type}

/-- One look at the resource. -/
def attempt (s : Store σ) : Probing PersistedProbe σ (Except NotConverged Store.Observation) := do
  let p ← get
  match ← (Sim.readExisting s p.ref : Sim σ _) with
  | .error e => return .error e
  | .ok found =>
    if found.ref.name = p.ref.name then return .ok found
    else return .error (.nameMismatch p.ref found.ref.name)

end PersistedProbe

end BrokerRollout
