import BrokerRollout.Json

/-!
# Identity of resources

A resource is known by its kind, its namespace and its name.
-/

namespace BrokerRollout

/-- The kinds of resource that a rollout submits. -/
inductive Kind where
  | cluster
  | address
  | security
deriving DecidableEq

namespace Kind

/-- The name of the kind in manifests. -/
def name : Kind → String
  | .cluster => "ActiveMQArtemis"
  | .address => "ActiveMQArtemisAddress"
  | .security => "ActiveMQArtemisSecurity"

/-- The name of the kind in request paths. -/
def plural : Kind → String
  | .cluster => "activemqartemises"
  | .address => "activemqartemisaddresses"
  | .security => "activemqartemissecurities"

/-- The bare word for the kind. -/
def label : Kind → String
  | .cluster => "Cluster"
  | .address => "Address"
  | .security => "Security"

end Kind

/-- The group and version that all kinds belong to. -/
def apiVersion : String := "broker.amq.io/v1beta1"

/-- What identifies a resource. -/
structure Ref where
  kind : Kind
  ns : String
  name : String
deriving DecidableEq

namespace Ref

/-- Kind, namespace and name with slashes between them. -/
def text (r : Ref) : String := r.kind.name ++ "/" ++ r.ns ++ "/" ++ r.name

/-- The identity as a record, for diagnostics. -/
def diagnostic (r : Ref) : String :=
  Text.record "ResourceRef" [
    ("kind", r.kind.label),
    ("namespace", Text.quote r.ns),
    ("name", Text.quote r.name)]

/-- The manifest of the resource with a given specification. -/
def manifest (r : Ref) (spec : Json) : Json :=
  .object [
    ("apiVersion", apiVersion),
    ("kind", r.kind.name),
    ("metadata", .object [("name", r.name), ("namespace", r.ns)]),
    ("spec", spec)]

end Ref

end BrokerRollout
