/-!
# Logging

Log output is set up once per process; a second set-up is refused.
-/

namespace BrokerRollout

inductive LogFormat where
  | text
  | json
deriving DecidableEq

namespace LogFormat

/-- The word for the format in settings. -/
def name : LogFormat → String
  | .text => "text"
  | .json => "json"

/-- The bare word for the format. -/
def label : LogFormat → String
  | .text => "Text"
  | .json => "Json"

end LogFormat

/-- The set-up of a process: the format of its log output, once that is decided. -/
structure Logging where
  format : Option LogFormat := none
deriving DecidableEq

namespace Logging

inductive Error where
  | alreadySetUp
deriving DecidableEq

def Error.message : Error → String
  | .alreadySetUp => "a global default trace dispatcher has already been set"

def setUp (l : Logging) (format : LogFormat) : Except Error Logging :=
  match l.format with
  | none => .ok { format := some format }
  | some _ => .error .alreadySetUp

/-- Runs an activity with log output set up, whoever did that, and gives back its value. -/
def around {α : Type} (l : Logging) (activity : Unit → α) : α × Logging :=
  (activity (), { format := some (l.format.getD .text) })

end Logging

end BrokerRollout
