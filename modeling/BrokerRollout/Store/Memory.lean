import BrokerRollout.Script
import BrokerRollout.Simulation
import BrokerRollout.Table

/-!
# A store in memory

A store without a cluster behind it. It holds what was created, and it can be told what readiness
to report, which creations to reject and which deletions to fail. Its operations are pure functions
on its state; a history is a list of them.
-/

namespace BrokerRollout

/-- A resource as the store in memory holds it. -/
structure Stored where
  resource : Resource
  /-- How many workers are reported ready. -/
  ready : Nat
  version : Nat
deriving DecidableEq

namespace Stored

/-- What a read of the resource shows: ready workers are those of the lowest ordinals. -/
def observe (s : Stored) : Store.Observation where
  ref := s.resource.ref
  ready := match s.resource with
    | .cluster c => c.workerNames s.ready
    | _ => []
  version := some (toString s.version)

end Stored

/-- The state of a store in memory. -/
structure MemoryStore where
  resources : Table Ref Stored := {}
  /-- Ready counts that the next reads report, by cluster. -/
  rollouts : Table Ref (Script Nat) := {}
  /-- The reasons for which the next creations are rejected. -/
  rejections : Table Ref String := {}
  /-- Resources whose deletions fail. -/
  undeletable : List Ref := []
  /-- How many versions were given out. -/
  versions : Nat := 0
  /-- Successful creations, and deletions that removed something. -/
  mutations : Nat := 0
  reads : Nat := 0

namespace MemoryStore

/-- A new store. -/
def empty : MemoryStore := {}

def contains (m : MemoryStore) (ref : Ref) : Bool := m.resources.contains ref

def size (m : MemoryStore) : Nat := m.resources.size

/-- Reports `ready` workers of a cluster from now on. -/
def setReady (ref : Ref) (ready : Nat) (m : MemoryStore) : MemoryStore :=
  { m with
    rollouts := m.rollouts.erase ref
    resources := m.resources.modify ref fun s => { s with ready } }

/-- Lets each of the next reads of a cluster report the next of the counts. -/
def scriptRollout (ref : Ref) (counts : List Nat) (m : MemoryStore) : MemoryStore :=
  { m with rollouts := m.rollouts.insert ref ⟨counts⟩ }

/-- Rejects the next creation of a resource. -/
def rejectCreate (ref : Ref) (reason : String) (m : MemoryStore) : MemoryStore :=
  { m with rejections := m.rejections.insert ref reason }

/-- Fails every deletion of a resource. -/
def failDeletes (ref : Ref) (m : MemoryStore) : MemoryStore :=
  { m with undeletable := if ref ∈ m.undeletable then m.undeletable else ref :: m.undeletable }

/-- A rejection is used up by the creation it rejects; a failed creation changes nothing else. -/
def create (resource : Resource) (m : MemoryStore) : Except Store.Error Unit × MemoryStore :=
  let ref := resource.ref
  match m.rejections.get? ref with
  | some reason =>
    (.error (.rejected ref reason), { m with rejections := m.rejections.erase ref })
  | none =>
    if m.contains ref then (.error (.alreadyExists ref), m)
    else
      let version := m.versions + 1
      (.ok (), { m with
        resources := m.resources.insert ref { resource, ready := 0, version }
        versions := version
        mutations := m.mutations + 1 })

/-- What is reported ready by the next read of a resource, if a script says so. -/
def scripted? (m : MemoryStore) (ref : Ref) : Option Nat :=
  (m.rollouts.get? ref).bind Script.current?

/-- A read of a resource that exists uses up one step of its script. -/
def get (ref : Ref) (m : MemoryStore) : Option Store.Observation × MemoryStore :=
  let m := { m with reads := m.reads + 1 }
  match m.resources.get? ref with
  | none => (none, m)
  | some stored =>
    let stored := { stored with ready := (m.scripted? ref).getD stored.ready }
    (some stored.observe, { m with
      resources := m.resources.modify ref fun _ => stored
      rollouts := m.rollouts.modify ref Script.advance })

/-- Deleting a resource that does not exist succeeds. -/
def delete (ref : Ref) (m : MemoryStore) : Except Store.Error Unit × MemoryStore :=
  if ref ∈ m.undeletable then
    (.error (.backend ("simulated delete failure for " ++ ref.text)), m)
  else
    (.ok (), { m with
      resources := m.resources.erase ref
      rollouts := m.rollouts.erase ref
      mutations := m.mutations + if m.contains ref then 1 else 0 })

/-! ### Histories -/

/-- An operation on a store in memory. -/
inductive Op where
  | create (resource : Resource)
  | get (ref : Ref)
  | delete (ref : Ref)
  | contains (ref : Ref)
  | setReady (ref : Ref) (ready : Nat)
  | scriptRollout (ref : Ref) (counts : List Nat)
  | rejectCreate (ref : Ref) (reason : String)
  | failDeletes (ref : Ref)
deriving DecidableEq

/-- The resource that an operation is about. -/
def Op.ref : Op → Ref
  | .create resource => resource.ref
  | .get ref | .delete ref | .contains ref | .setReady ref _ | .scriptRollout ref _
  | .rejectCreate ref _ | .failDeletes ref => ref

/-- What an operation answers. -/
inductive Answer where
  | written (result : Except Store.Error Unit)
  | read (found : Option Store.Observation)
  | flag (value : Bool)
  | done

/-- One operation. -/
def step (m : MemoryStore) : Op → Answer × MemoryStore
  | .create resource => let (a, m) := m.create resource; (.written a, m)
  | .get ref => let (a, m) := m.get ref; (.read a, m)
  | .delete ref => let (a, m) := m.delete ref; (.written a, m)
  | .contains ref => (.flag (m.contains ref), m)
  | .setReady ref ready => (.done, m.setReady ref ready)
  | .scriptRollout ref counts => (.done, m.scriptRollout ref counts)
  | .rejectCreate ref reason => (.done, m.rejectCreate ref reason)
  | .failDeletes ref => (.done, m.failDeletes ref)

/-- A history: the answers of its operations, in order, and the state after them. -/
def run (m : MemoryStore) : List Op → List Answer × MemoryStore
  | [] => ([], m)
  | op :: ops =>
    let (answer, m) := m.step op
    let (answers, m) := m.run ops
    (answer :: answers, m)

/-- The store in memory as a backend: it replies at once. -/
def store : Store MemoryStore where
  create resource _ m := let (answer, state) := m.create resource; { answer, state }
  get ref _ m := let (found, state) := m.get ref; { answer := .ok found, state }
  delete ref _ m := let (answer, state) := m.delete ref; { answer, state }

end MemoryStore

end BrokerRollout
