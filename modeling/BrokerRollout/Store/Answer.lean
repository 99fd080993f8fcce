import BrokerRollout.Resource.Ref

/-!
# What a store answers

A store creates, reads and deletes resources. It answers with an error or, to a read, with what it
observes of the resource.
-/

namespace BrokerRollout.Store

/-- Why a store did not do what it was asked. -/
inductive Error where
  | connectionFailed (reason : String)
  | alreadyExists (ref : Ref)
  | rejected (ref : Ref) (reason : String)
  | undecodable (ref : Ref) (reason : String)
  | backend (reason : String)
deriving DecidableEq

def Error.message : Error → String
  | .connectionFailed reason => "connection failed: " ++ reason
  | .alreadyExists ref => ref.text ++ " already exists"
  | .rejected ref reason => ref.text ++ " rejected: " ++ reason
  | .undecodable ref reason => "could not decode " ++ ref.text ++ ": " ++ reason
  | .backend reason => "backend error: " ++ reason

/-- The status of a resource as a store last reported it. -/
structure Observation where
  ref : Ref
  /-- Workers that are reported ready; none for kinds without workers. -/
  ready : List String
  version : Option String
deriving DecidableEq

/-- How many workers are ready. There is no largest count here: 32 bits hold all counts that a store in
memory can be given, and a list of more names than that does not fit into a response. -/
def Observation.readyCount (o : Observation) : Nat := o.ready.length

end BrokerRollout.Store
