import BrokerRollout.Resource.Cluster
import BrokerRollout.Resource.Address
import BrokerRollout.Resource.Security

/-!
# Resources

A resource is a cluster, an address or a security resource, as a rollout wants it. Its manifest is
what an API server is asked to create.
-/

namespace BrokerRollout

/-- Why a resource, or a plan that holds it, is not fit for submission. -/
inductive SpecError where
  | emptyName (kind : Kind)
  | unknownLoginModule (name : String)
  | duplicateName (kind : Kind) (name : String)
deriving DecidableEq

def SpecError.message : SpecError → String
  | .emptyName kind => kind.name ++ ": name must not be empty"
  | .unknownLoginModule name => "security domain references unknown login module '" ++ name ++ "'"
  | .duplicateName kind name => "duplicate " ++ kind.name ++ " name '" ++ name ++ "' in plan"

/-- A resource as it is wanted. -/
inductive Resource where
  | cluster (spec : Cluster)
  | address (spec : Address)
  | security (spec : Security)
deriving DecidableEq

namespace Resource

def ref : Resource → Ref
  | .cluster c => c.ref
  | .address a => a.ref
  | .security s => s.ref

def manifest : Resource → Json
  | .cluster c => c.manifest
  | .address a => a.manifest
  | .security s => s.manifest

/-- A resource has a name, and a security domain goes through declared login modules only. -/
def validate (r : Resource) : Except SpecError Unit :=
  if r.ref.name.isEmpty then .error (.emptyName r.ref.kind)
  else match r with
    | .security s =>
      match s.undeclared? with
      | some missing => .error (.unknownLoginModule missing.name)
      | none => .ok ()
    | _ => .ok ()

end Resource

end BrokerRollout
