import BrokerRollout.Store.Memory

/-!
# A store that others work on

While an activity runs, others may work on the same store in memory. Their operations are a
timeline: each is due at some time, and those that are due are done, in order, before the activity's
next call.
-/

namespace BrokerRollout

/-- A store in memory and what others are going to do with it. -/
structure Timeline where
  memory : MemoryStore := {}
  /-- Operations to come, with the times at which they are due. -/
  pending : List (Nat × MemoryStore.Op) := []

namespace Timeline

/-- Does what is due at `now`; an operation waits for those before it. -/
def catchUp (now : Nat) (t : Timeline) : Timeline :=
  let due := t.pending.takeWhile (·.1 ≤ now)
  { memory := (t.memory.run (due.map (·.2))).2
    pending := t.pending.dropWhile (·.1 ≤ now) }

/-- Does all that is pending. -/
def finish (t : Timeline) : Timeline :=
  { memory := (t.memory.run (t.pending.map (·.2))).2, pending := [] }

/-- The time at which nothing is pending any more, from `now` on. -/
def finishedAt (now : Nat) (t : Timeline) : Nat := t.pending.foldl (fun n e => max n e.1) now

/-- A reply of the store in memory, once all that was due is done. -/
def reply {α : Type} (ask : MemoryStore → Reply MemoryStore α) (now : Nat) (t : Timeline) :
    Reply Timeline α :=
  let t := t.catchUp now
  (ask t.memory).mapState fun memory => { t with memory }

/-- The store in memory as the activity sees it. -/
def store : Store Timeline where
  create resource now := reply (MemoryStore.store.create resource now) now
  get ref now := reply (MemoryStore.store.get ref now) now
  delete ref now := reply (MemoryStore.store.delete ref now) now

end Timeline

end BrokerRollout
