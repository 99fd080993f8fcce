/-!
# Commands for workers

A request names a command, the container of the worker it runs in, and the channels to attach.
-/

namespace BrokerRollout.Exec

/-- A command to run without a terminal in one container of one worker. -/
structure Request where
  worker : String
  ns : String
  container : String
  argv : List String
  stdin : Bool := false
  stdout : Bool := true
  stderr : Bool := true
deriving DecidableEq

namespace Request

def attachStdin (r : Request) (on : Bool) : Request := { r with stdin := on }

def attachStderr (r : Request) (on : Bool) : Request := { r with stderr := on }

end Request

end BrokerRollout.Exec
