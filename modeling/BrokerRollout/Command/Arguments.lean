import BrokerRollout.Text.Quoted

/-!
# Arguments

The command takes options and nothing else. They are taken from left to right, each at most once,
and the first fault or the first request for help or the version decides. Options with one letter
may be written together; a value follows its option, as the next argument or in the same one.
-/

namespace BrokerRollout.Command

/-- An option that is on when it is given. -/
inductive Switch where
  | verbose
  | live
  | deployController
  | jsonLogs
deriving DecidableEq

/-- An option with a value. -/
inductive Setting where
  | config
  | ns
deriving DecidableEq

inductive Opt where
  | switch (s : Switch)
  | setting (s : Setting)
  | help
  | version
deriving DecidableEq

namespace Opt

/-- All options, as help lists them. -/
def all : List Opt := [
  .switch .verbose, .setting .config, .switch .live, .switch .deployController, .setting .ns,
  .switch .jsonLogs, .help, .version]

def letter? : Opt → Option Char
  | .switch .verbose => some 'v'
  | .setting .config => some 'c'
  | .setting .ns => some 'n'
  | .help => some 'h'
  | .version => some 'V'
  | .switch .live | .switch .deployController | .switch .jsonLogs => none

def word? : Opt → Option String
  | .switch .verbose => none
  | .setting .config => some "config"
  | .switch .live => some "live"
  | .switch .deployController => some "deploy-controller"
  | .setting .ns => some "namespace"
  | .switch .jsonLogs => some "json-logs"
  | .help => some "help"
  | .version => some "version"

/-- What the option's value is called. -/
def valueName? : Opt → Option String
  | .setting .config => some "CONFIG"
  | .setting .ns => some "NAMESPACE"
  | _ => none

def about : Opt → String
  | .switch .verbose => "whether to be verbose"
  | .setting .config => "path to a TOML config file"
  | .switch .live =>
    "run against the cluster in the current kubeconfig (same as USE_EXISTING_CLUSTER=true)"
  | .switch .deployController =>
    "the operator under test is deployed for this run (same as DEPLOY_OPERATOR=true)"
  | .setting .ns => "namespace to deploy into, overriding the config file"
  | .switch .jsonLogs => "emit logs as JSON"
  | .help => "Print help"
  | .version => "Print version"

def ofLetter? (c : Char) : Option Opt := all.find? fun o => o.letter? = some c

def ofWord? (word : String) : Option Opt := all.find? fun o => o.word? = some word

/-- How the option is written. -/
def usage (o : Opt) : String :=
  let letter := o.letter?.map fun c => String.ofList ['-', c]
  let word := o.word?.map ("--" ++ ·)
  let names := match letter, word with
    | some letter, some word => letter ++ ", " ++ word
    | some letter, none => letter
    | none, some word => "    " ++ word
    | none, none => ""
  match o.valueName? with
  | some value => names ++ " <" ++ value ++ ">"
  | none => names

end Opt

/-- The options given. -/
structure Arguments where
  verbose : Bool := false
  config : Option String := none
  live : Bool := false
  deployController : Bool := false
  ns : Option String := none
  jsonLogs : Bool := false
deriving DecidableEq

/-- What arguments ask for. -/
inductive Request where
  | run (arguments : Arguments)
  | help
  | version
deriving DecidableEq

/-- Why arguments are refused. -/
inductive UsageError where
  | unexpected (argument : String)
  | repeated (option : Opt)
  | missingValue (option : Opt)
  | needlessValue (option : Opt)
  | emptyPath
deriving DecidableEq

def UsageError.message : UsageError → String
  | .unexpected argument => "unexpected argument " ++ Text.quote argument
  | .repeated option => option.usage ++ " is given more than once"
  | .missingValue option => option.usage ++ " needs a value"
  | .needlessValue option => option.usage ++ " takes no value"
  | .emptyPath => "the path of the config file is empty"

namespace Arguments

def isOn (a : Arguments) : Switch → Bool
  | .verbose => a.verbose
  | .live => a.live
  | .deployController => a.deployController
  | .jsonLogs => a.jsonLogs

def turnOn (a : Arguments) (s : Switch) : Except UsageError Arguments :=
  if a.isOn s then .error (.repeated (.switch s))
  else
    match s with
    | .verbose => .ok { a with verbose := true }
    | .live => .ok { a with live := true }
    | .deployController => .ok { a with deployController := true }
    | .jsonLogs => .ok { a with jsonLogs := true }

def value? (a : Arguments) : Setting → Option String
  | .config => a.config
  | .ns => a.ns

/-- Gives an option its value. Only a path may not be empty. -/
def put (a : Arguments) (s : Setting) (value : String) : Except UsageError Arguments :=
  if (a.value? s).isSome then .error (.repeated (.setting s))
  else
    match s with
    | .config => if value.isEmpty then .error .emptyPath else .ok { a with config := some value }
    | .ns => .ok { a with ns := some value }

/-- What comes of one argument: the arguments so far, a value that has to follow, or a request that
needs no more. -/
inductive Taken where
  | on (a : Arguments)
  | awaiting (a : Arguments) (s : Setting)
  | asked (r : Request)

/-- Takes letters of options written together. The first with a value takes the rest for it, and an
equals sign before the value does not belong to it. -/
def takeLetters (a : Arguments) : List Char → Except UsageError Taken
  | [] => .ok (.on a)
  | c :: rest =>
    match Opt.ofLetter? c with
    | none => .error (.unexpected (String.ofList ['-', c]))
    | some .help => .ok (.asked .help)
    | some .version => .ok (.asked .version)
    | some (.switch s) =>
      match a.turnOn s with
      | .ok a => takeLetters a rest
      | .error e => .error e
    | some (.setting s) =>
      match rest with
      | [] => .ok (.awaiting a s)
      | '=' :: value => (a.put s (String.ofList value)).map .on
      | value => (a.put s (String.ofList value)).map .on

/-- Takes an option by its word, with a value if an equals sign follows. -/
def takeWord (a : Arguments) (text : List Char) : Except UsageError Taken :=
  let word := text.takeWhile (· ≠ '=')
  let value := (text.dropWhile (· ≠ '=')).tail?.map String.ofList
  match Opt.ofWord? (String.ofList word), value with
  | none, _ => .error (.unexpected ("--" ++ String.ofList word))
  | some (.setting s), none => .ok (.awaiting a s)
  | some (.setting s), some value => (a.put s value).map .on
  | some option, some _ => .error (.needlessValue option)
  | some .help, none => .ok (.asked .help)
  | some .version, none => .ok (.asked .version)
  | some (.switch s), none => (a.turnOn s).map .on

/-- Takes one argument. A lone dash is no option. -/
def takeOne (a : Arguments) (argument : String) : Except UsageError Taken :=
  match argument.toList with
  | '-' :: '-' :: text => a.takeWord text
  | '-' :: c :: letters => a.takeLetters (c :: letters)
  | _ => .error (.unexpected argument)

/-- Whether an argument is an option rather than a value. -/
def isOption (argument : String) : Bool :=
  match argument.toList with
  | '-' :: _ :: _ => true
  | _ => false

/-- Takes arguments on top of those taken before. Two dashes end the options, and nothing may
follow them. -/
def takeAll (a : Arguments) : List String → Except UsageError Request
  | [] => .ok (.run a)
  | ["--"] => .ok (.run a)
  | "--" :: argument :: _ => .error (.unexpected argument)
  | argument :: rest =>
    match a.takeOne argument with
    | .error e => .error e
    | .ok (.asked r) => .ok r
    | .ok (.on a) => takeAll a rest
    | .ok (.awaiting a s) =>
      match rest with
      | [] => .error (.missingValue (.setting s))
      | value :: rest =>
        if isOption value then .error (.missingValue (.setting s))
        else
          match a.put s value with
          | .ok a => takeAll a rest
          | .error e => .error e

/-- What a list of arguments asks for. -/
def parse (arguments : List String) : Except UsageError Request := takeAll {} arguments

/-- The options given as a record, for diagnostics. -/
def diagnostic (a : Arguments) : String :=
  Text.record "Args" [
    ("verbose", toString a.verbose),
    ("config", Text.optional (a.config.map Text.quote)),
    ("live", toString a.live),
    ("deploy_controller", toString a.deployController),
    ("namespace", Text.optional (a.ns.map Text.quote)),
    ("json_logs", toString a.jsonLogs)]

end Arguments

end BrokerRollout.Command
