import BrokerRollout.Resource.Ref

/-!
# Broker clusters

A cluster is a number of workers that run the same broker. Its operator puts them into a stateful
set, which numbers them from zero.
-/

namespace BrokerRollout

/-- When a worker is first asked whether it is ready, and how often after that. -/
structure Readiness where
  initialDelaySeconds : Nat
  periodSeconds : Nat
deriving DecidableEq

/-- A broker cluster as it is wanted. -/
structure Cluster where
  name : String
  ns : String
  replicas : Nat
  readiness : Option Readiness := none
deriving DecidableEq

namespace Cluster

def withReadiness (c : Cluster) (initialDelaySeconds periodSeconds : Nat) : Cluster :=
  { c with readiness := some ⟨initialDelaySeconds, periodSeconds⟩ }

/-- The stateful set that the operator creates for the cluster. -/
def statefulSetName (c : Cluster) : String := c.name ++ "-ss"

/-- The worker of a given ordinal. -/
def workerName (c : Cluster) (ordinal : Nat) : String :=
  c.statefulSetName ++ "-" ++ toString ordinal

/-- The broker container inside every worker. -/
def containerName (c : Cluster) : String := c.name ++ "-container"

/-- Worker ordinals in the order in which workers are verified: highest first. -/
def ordinalsDescending (c : Cluster) : List Nat := (List.range c.replicas).reverse

/-- The first `count` of the ordinals in that order. -/
def firstOrdinalsDescending (c : Cluster) (count : Nat) : List Nat :=
  (List.range (min count c.replicas)).map fun i => c.replicas - 1 - i

/-- The first `count` of `workerName 0`, `workerName 1` and so on. -/
def workerNames (c : Cluster) (count : Nat) : List String := (List.range count).map c.workerName

def ref (c : Cluster) : Ref := ⟨.cluster, c.ns, c.name⟩

def readinessManifest (r : Readiness) : Json :=
  .object [
    ("initialDelaySeconds", .ofNat r.initialDelaySeconds),
    ("periodSeconds", .ofNat r.periodSeconds)]

def manifest (c : Cluster) : Json :=
  let size := ("size", .ofNat c.replicas)
  let plan := match c.readiness with
    | some r => [size, ("readinessProbe", readinessManifest r)]
    | none => [size]
  c.ref.manifest (.object [("deploymentPlan", .object plan)])

end Cluster

end BrokerRollout
