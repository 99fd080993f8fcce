import BrokerRollout.Text.Quoted

/-!
# Failed commands

A command fails at setup, when no stream to the worker is opened, or in execution, when it exits
with another code than zero or its stream breaks.
-/

namespace BrokerRollout.Exec

/-- Which half of an execution failed: opening the stream, or what came after. -/
inductive Stage where
  | setup
  | execution
deriving DecidableEq

def Stage.name : Stage → String
  | .setup => "Setup"
  | .execution => "Execution"

/-- Why a command did not run to a successful end. -/
inductive Error where
  | setup (worker reason : String)
  | nonZeroExit (code : Option Int) (message : String)
  | aborted (reason : String)
deriving DecidableEq

namespace Error

def stage : Error → Stage
  | .setup .. => .setup
  | .nonZeroExit .. => .execution
  | .aborted .. => .execution

def message : Error → String
  | .setup worker reason => "could not open exec stream to " ++ worker ++ ": " ++ reason
  | .nonZeroExit code message =>
    "remote command exited with code " ++ Text.optional (code.map toString) ++ ": " ++ message
  | .aborted reason => "exec stream aborted: " ++ reason

/-- The error as a record, for diagnostics. -/
def diagnostic : Error → String
  | .setup worker reason =>
    Text.record "Setup" [("worker", Text.quote worker), ("reason", Text.quote reason)]
  | .nonZeroExit code message =>
    Text.record "NonZeroExit" [
      ("code", Text.optional (code.map toString)),
      ("message", Text.quote message)]
  | .aborted reason => "Aborted(" ++ Text.quote reason ++ ")"

end Error

end BrokerRollout.Exec
