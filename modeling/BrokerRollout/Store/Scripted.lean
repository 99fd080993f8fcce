import BrokerRollout.Script
import BrokerRollout.Simulation

/-!
# A store that follows a script

Each operation takes its answers, and the time it needs for them, from a script of its own, whatever
it is asked. An empty script stands for a store in which every operation succeeds at once and every
read finds nothing.
-/

namespace BrokerRollout

/-- Scripted answers, each with the time it takes. -/
structure ScriptedStore where
  create : Script (Nat × Except Store.Error Unit) := {}
  get : Script (Nat × Except Store.Error (Option Store.Observation)) := {}
  delete : Script (Nat × Except Store.Error Unit) := {}

namespace ScriptedStore

def store : Store ScriptedStore where
  create _ _ s :=
    let (took, answer) := s.create.current?.getD (0, .ok ())
    { answer, took, state := { s with create := s.create.advance } }
  get _ _ s :=
    let (took, answer) := s.get.current?.getD (0, .ok none)
    { answer, took, state := { s with get := s.get.advance } }
  delete _ _ s :=
    let (took, answer) := s.delete.current?.getD (0, .ok ())
    { answer, took, state := { s with delete := s.delete.advance } }

end ScriptedStore

end BrokerRollout
