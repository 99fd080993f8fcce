import BrokerRollout.Logging
import BrokerRollout.Settings
import BrokerRollout.Text.Utf8
import BrokerRollout.Toml.Document

/-!
# Configuration files

A configuration is a TOML table. Every key may be missing and is then filled in, a whole part with
the default of that part and a key inside a part with a default of its own. Keys that are not known
are passed over. A part may also be given as an array of its values, in the order of its fields. The
first misfit in the order of the document is the one reported.
-/

namespace BrokerRollout

def defaultNamespace : String := "default"

/-- A configuration. -/
structure Config where
  scenario : Settings := {}
  timing : TimingConfig := {}
  ns : String := defaultNamespace
  logFormat : LogFormat := .text
deriving DecidableEq

namespace Config

/-- Why a value does not fit where it stands. -/
inductive Misfit where
  | type (found : Toml.Value) (expected : String)
  | negative (found : Int)
  | unknownFormat (name : String)
  | formatType
  | noFormat
  | severalFormats
  | formatContent (found : Toml.Value)

def Misfit.message : Misfit → String
  | .type found expected => "invalid type: " ++ found.description ++ ", expected " ++ expected
  | .negative n => "invalid value: integer `" ++ toString n ++ "`, expected u64"
  | .unknownFormat name => "unknown variant `" ++ name ++ "`, expected `text` or `json`"
  | .formatType => "wanted string or table"
  | .noFormat => "wanted exactly 1 element, found 0 elements"
  | .severalFormats => "wanted exactly 1 element, more than 1 element"
  | .formatContent (.array _) => "expected empty array"
  | .formatContent (.table _) => "expected empty table"
  | .formatContent found => "expected table, found " ++ found.typeName

/-- Why a file's content was not read as text. -/
inductive ReadError where
  | notFound
  | isDirectory
  | notText
  | other (reason : String)
deriving DecidableEq

def ReadError.message : ReadError → String
  | .notFound => "No such file or directory (os error 2)"
  | .isDirectory => "Is a directory (os error 21)"
  | .notText => "stream did not contain valid UTF-8"
  | .other reason => reason

/-- Why there is no configuration. -/
inductive Error where
  | unreadable (error : ReadError)
  | notToml
  | misfit (misfit : Misfit)

/-! ### Values -/

def text : Toml.Value → Except Misfit String
  | .string s => .ok s
  | v => .error (.type v "a string")

def switch : Toml.Value → Except Misfit Bool
  | .boolean b => .ok b
  | v => .error (.type v "a boolean")

/-- A count that is not negative. -/
def count : Toml.Value → Except Misfit UInt64
  | .integer n => if n < 0 then .error (.negative n) else .ok n.toNat.toUInt64
  | v => .error (.type v "u64")

def formatName : String → Except Misfit LogFormat
  | "text" => .ok .text
  | "json" => .ok .json
  | name => .error (.unknownFormat name)

/-- A format is a word, or a table with that word as its one key and nothing in it. -/
def logFormatOf : Toml.Value → Except Misfit LogFormat
  | .string name => formatName name
  | .table [] => .error .noFormat
  | .table [(name, content)] =>
    match formatName name, content with
    | .error e, _ => .error e
    | .ok format, .array [] | .ok format, .table [] => .ok format
    | .ok _, content => .error (.formatContent content)
  | .table _ => .error .severalFormats
  | _ => .error .formatType

/-! ### What a table gives -/

/-- The switches that a table gives. -/
structure GivenSettings where
  runAgainstLiveCluster : Option Bool := none
  deployController : Option Bool := none
  waitBeforeDependents : Option Bool := none

/-- A switch that is not given is off, except that for waiting. -/
def GivenSettings.filled (g : GivenSettings) : Settings where
  runAgainstLiveCluster := g.runAgainstLiveCluster.getD false
  deployController := g.deployController.getD false
  waitBeforeDependents := g.waitBeforeDependents.getD true

/-- The timeouts and intervals that a table gives. -/
structure GivenTiming where
  convergenceTimeout : Option UInt64 := none
  convergenceInterval : Option UInt64 := none
  workerTimeout : Option UInt64 := none
  workerInterval : Option UInt64 := none
  persistenceTimeout : Option UInt64 := none
  persistenceInterval : Option UInt64 := none

def GivenTiming.filled (g : GivenTiming) : TimingConfig where
  convergenceTimeout := g.convergenceTimeout.getD defaultClusterTimeout
  convergenceInterval := g.convergenceInterval.getD defaultClusterInterval
  workerTimeout := g.workerTimeout.getD defaultClusterTimeout
  workerInterval := g.workerInterval.getD defaultClusterInterval
  persistenceTimeout := g.persistenceTimeout.getD defaultPersistenceTimeout
  persistenceInterval := g.persistenceInterval.getD defaultPersistenceInterval

/-- The parts that a document gives, each already filled. -/
structure Given where
  scenario : Option Settings := none
  timing : Option TimingConfig := none
  ns : Option String := none
  logFormat : Option LogFormat := none

def Given.filled (g : Given) : Config where
  scenario := g.scenario.getD {}
  timing := g.timing.getD {}
  ns := g.ns.getD defaultNamespace
  logFormat := g.logFormat.getD .text

/-! ### Parts -/

/-- How a part of a configuration takes in a value: under the name of a field. -/
abbrev Field (α : Type) := String × (α → Toml.Value → Except Misfit α)

variable {α β : Type}

/-- A field whose value is decoded and then put into place. -/
def field (name : String) (decode : Toml.Value → Except Misfit β) (put : α → β → α) : Field α :=
  (name, fun given v => (decode v).map (put given))

/-- Takes in the entries of a table, in order. -/
def fromEntries (fields : List (Field α)) (given : α) :
    List (String × Toml.Value) → Except Misfit α
  | [] => .ok given
  | (key, v) :: rest =>
    match fields.find? (·.1 == key) with
    | none => fromEntries fields given rest
    | some (_, take) =>
      match take given v with
      | .ok given => fromEntries fields given rest
      | .error e => .error e

/-- Takes in values for the fields, in the order of the fields. -/
def fromItems (given : α) : List (Field α) → List Toml.Value → Except Misfit α
  | (_, take) :: fields, v :: rest =>
    match take given v with
    | .ok given => fromItems given fields rest
    | .error e => .error e
  | _, _ => .ok given

/-- A part of a configuration, filled. A date or time counts as a table without a known key. -/
def part (name : String) (fields : List (Field α)) (nothing : α) (filled : α → β) :
    Toml.Value → Except Misfit β
  | .table entries => (fromEntries fields nothing entries).map filled
  | .array items => (fromItems nothing fields items).map filled
  | .moment _ => .ok (filled nothing)
  | v => .error (.type v ("struct " ++ name))

def scenarioFields : List (Field GivenSettings) := [
  field "run_against_live_cluster" switch fun s b => { s with runAgainstLiveCluster := some b },
  field "deploy_controller" switch fun s b => { s with deployController := some b },
  field "wait_before_dependents" switch fun s b => { s with waitBeforeDependents := some b }]

def timingFields : List (Field GivenTiming) := [
  field "convergence_timeout_ms" count fun t n => { t with convergenceTimeout := some n },
  field "convergence_interval_ms" count fun t n => { t with convergenceInterval := some n },
  field "worker_timeout_ms" count fun t n => { t with workerTimeout := some n },
  field "worker_interval_ms" count fun t n => { t with workerInterval := some n },
  field "persistence_timeout_ms" count fun t n => { t with persistenceTimeout := some n },
  field "persistence_interval_ms" count fun t n => { t with persistenceInterval := some n }]

def fields : List (Field Given) := [
  field "scenario" (part "ScenarioSettings" scenarioFields {} GivenSettings.filled)
    fun c s => { c with scenario := some s },
  field "timing" (part "TimingConfig" timingFields {} GivenTiming.filled)
    fun c t => { c with timing := some t },
  field "namespace" text fun c s => { c with ns := some s },
  field "log_format" logFormatOf fun c f => { c with logFormat := some f }]

/-- The configuration of a document's table. -/
def ofTable (entries : List (String × Toml.Value)) : Except Misfit Config :=
  (fromEntries fields {} entries).map Given.filled

/-- The configuration of a file's content. -/
def ofText (content : String) : Except Error Config :=
  match Toml.parse? content with
  | none => .error .notToml
  | some entries => (ofTable entries).mapError .misfit

/-- The configuration of a file's bytes. -/
def ofBytes (content : List UInt8) : Except Error Config :=
  match Text.ofUtf8 content with
  | .error _ => .error (.unreadable .notText)
  | .ok content => ofText content

/-- The configuration of a file that may not have been read, or the default without a file. -/
def load : Option (Except ReadError (List UInt8)) → Except Error Config
  | none => .ok {}
  | some (.error e) => .error (.unreadable e)
  | some (.ok content) => ofBytes content

/-- The configuration as a record, for diagnostics. -/
def diagnostic (c : Config) : String :=
  Text.record "AppConfig" [
    ("scenario", Text.record "ScenarioSettings" [
      ("run_against_live_cluster", toString c.scenario.runAgainstLiveCluster),
      ("deploy_controller", toString c.scenario.deployController),
      ("wait_before_dependents", toString c.scenario.waitBeforeDependents)]),
    ("timing", Text.record "TimingConfig" [
      ("convergence_timeout_ms", toString c.timing.convergenceTimeout),
      ("convergence_interval_ms", toString c.timing.convergenceInterval),
      ("worker_timeout_ms", toString c.timing.workerTimeout),
      ("worker_interval_ms", toString c.timing.workerInterval),
      ("persistence_timeout_ms", toString c.timing.persistenceTimeout),
      ("persistence_interval_ms", toString c.timing.persistenceInterval)]),
    ("namespace", Text.quote c.ns),
    ("log_format", c.logFormat.label)]

end Config

end BrokerRollout
