import BrokerRollout.Resource.Ref

/-!
# Addresses

An address binds a queue to the brokers of a cluster.
-/

namespace BrokerRollout

/-- Whether a message goes to one consumer or to all. -/
inductive Routing where
  | anycast
  | multicast
deriving DecidableEq

def Routing.name : Routing → String
  | .anycast => "anycast"
  | .multicast => "multicast"

/-- An address as it is wanted. -/
structure Address where
  name : String
  ns : String
  addressName : String
  queueName : String
  routing : Routing := .anycast
  autoDelete : Bool := false
deriving DecidableEq

namespace Address

def multicast (a : Address) (on : Bool) : Address :=
  { a with routing := if on then .multicast else .anycast }

def withAutoDelete (a : Address) (on : Bool) : Address := { a with autoDelete := on }

def ref (a : Address) : Ref := ⟨.address, a.ns, a.name⟩

def manifest (a : Address) : Json :=
  a.ref.manifest (.object [
    ("addressName", a.addressName),
    ("queueName", a.queueName),
    ("routingType", a.routing.name),
    ("queueConfiguration", .object [("autoDelete", a.autoDelete)])])

end Address

end BrokerRollout
