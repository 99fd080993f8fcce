import BrokerRollout.Script
import BrokerRollout.Simulation
import BrokerRollout.Table

/-!
# An endpoint that follows a script

Each worker has a script of sessions, or of reasons why none opens. A session offers only the
channels that its request attaches.
-/

namespace BrokerRollout.Exec

/-- One opening: how long it takes, and the session or the error it ends with. -/
structure Opening where
  took : Nat := 0
  answer : Except Error Session := .ok {}

/-- The scripts of the workers that exist. -/
abbrev ScriptedWorkers := Table String (Script Opening)

namespace ScriptedWorkers

def endpoint : Endpoint ScriptedWorkers where
  openSession request _ workers :=
    match (workers.get? request.worker).bind Script.current? with
    | none => {
        answer := .error (.setup request.worker ("pods \x22" ++ request.worker ++ "\x22 not found"))
        state := workers }
    | some opening => {
        answer := opening.answer.map (·.restricted request)
        took := opening.took
        state := workers.modify request.worker Script.advance }

end ScriptedWorkers

end BrokerRollout.Exec
