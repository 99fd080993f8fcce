import BrokerRollout.Window

/-!
# Settings

What a run does beyond submitting resources, and how long it waits for what. The process
environment may override the two switches that make a run live.
-/

namespace BrokerRollout

/-- Both of the first two switches have to be on for the state of a live cluster to be verified. -/
structure Settings where
  runAgainstLiveCluster : Bool := false
  deployController : Bool := false
  /-- Wait for the cluster's workers before its dependents are submitted. -/
  waitBeforeDependents : Bool := true
deriving DecidableEq

namespace Settings

/-- The settings of a run that goes through every phase. -/
def live : Settings := { runAgainstLiveCluster := true, deployController := true }

def liveClusterVariable : String := "USE_EXISTING_CLUSTER"

def deployControllerVariable : String := "DEPLOY_OPERATOR"

/-- A switch by the value of its variable: only `true` turns it on, and without a value it stays
as it is. -/
def switched (configured : Bool) : Option String → Bool
  | some value => value == "true"
  | none => configured

/-- The settings under an environment. -/
def withEnvironment (s : Settings) (lookup : String → Option String) : Settings :=
  { s with
    runAgainstLiveCluster := switched s.runAgainstLiveCluster (lookup liveClusterVariable)
    deployController := switched s.deployController (lookup deployControllerVariable) }

def verifiesLiveState (s : Settings) : Bool := s.runAgainstLiveCluster && s.deployController

end Settings

/-- How long a cluster and its workers are waited for, and how often they are looked at, unless
something else is asked for; like all of these in milliseconds. -/
def defaultClusterTimeout : UInt64 := 180000

def defaultClusterInterval : UInt64 := 10000

def defaultPersistenceTimeout : UInt64 := 30000

def defaultPersistenceInterval : UInt64 := 500

/-- Timeouts and intervals of the three waits of a run, in milliseconds. -/
structure TimingConfig where
  convergenceTimeout : UInt64 := defaultClusterTimeout
  convergenceInterval : UInt64 := defaultClusterInterval
  workerTimeout : UInt64 := defaultClusterTimeout
  workerInterval : UInt64 := defaultClusterInterval
  persistenceTimeout : UInt64 := defaultPersistenceTimeout
  persistenceInterval : UInt64 := defaultPersistenceInterval
deriving DecidableEq

/-- The windows of the three waits of a run. -/
structure Timing where
  convergence : Window
  worker : Window
  persistence : Window

namespace TimingConfig

def convergence (c : TimingConfig) : Except WindowError Window :=
  Window.ofMillis c.convergenceTimeout c.convergenceInterval

def worker (c : TimingConfig) : Except WindowError Window :=
  Window.ofMillis c.workerTimeout c.workerInterval

def persistence (c : TimingConfig) : Except WindowError Window :=
  Window.ofMillis c.persistenceTimeout c.persistenceInterval

/-- The windows, unless an interval is zero. -/
def timing (c : TimingConfig) : Except WindowError Timing := do
  return { convergence := ← c.convergence, worker := ← c.worker, persistence := ← c.persistence }

end TimingConfig

end BrokerRollout
