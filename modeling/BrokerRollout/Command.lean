import BrokerRollout.Command.Arguments
import BrokerRollout.Config
import BrokerRollout.Scenario
import BrokerRollout.Store.Memory

/-!
# The command

The command runs the address rollout, on the cluster of the current context or in memory, and shows
what came of it. Its arguments are layered over the environment, and that over the config file.
-/

namespace BrokerRollout.Command

/-- What the command finds around it. -/
structure Surroundings (σ : Type) where
  contentOf : String → Except Config.ReadError (List UInt8)
  environment : String → Option String
  /-- The backend of a live run, if there is a cluster to connect to. -/
  cluster : Except Store.Error (Backend σ)

/-- Why the command stops before a run. -/
inductive Fault where
  | usage (error : UsageError)
  | config (error : Config.Error)
  | window (error : WindowError)
  | connection (error : Store.Error)

/-- How the command ends. -/
inductive Ending where
  | help
  | version
  | stopped (fault : Fault)
  | ran (report : Scenario.Report)
  | panicked (panic : Panic)

/-- The end of the command, and the lines it shows before that. -/
structure Outcome where
  shown : List String := []
  ending : Ending

variable {σ : Type}

/-! ### Layers -/

/-- The configuration of the config file, with what the arguments override. -/
def configuration (s : Surroundings σ) (a : Arguments) : Except Config.Error Config :=
  (Config.load (a.config.map s.contentOf)).map fun c =>
    { c with ns := a.ns.getD c.ns, logFormat := if a.jsonLogs then .json else c.logFormat }

/-- The settings of a run; an argument can only turn a switch on. -/
def settings (s : Surroundings σ) (a : Arguments) (c : Config) : Settings :=
  let under := c.scenario.withEnvironment s.environment
  { under with
    runAgainstLiveCluster := under.runAgainstLiveCluster || a.live
    deployController := under.deployController || a.deployController }

/-- The backend of a run that is not live. -/
def offline : Backend (MemoryStore × σ) where
  store := MemoryStore.store.within Prod.fst fun memory (_, state) => (memory, state)
  endpoint := .offline

/-- A cluster beside a store in memory. -/
def online (b : Backend σ) : Backend (MemoryStore × σ) where
  store := b.store.within Prod.snd fun state (memory, _) => (memory, state)
  endpoint := b.endpoint.within Prod.snd fun state (memory, _) => (memory, state)

def backend (s : Surroundings σ) (live : Bool) : Except Store.Error (Backend (MemoryStore × σ)) :=
  if live then s.cluster.map online else .ok offline

/-! ### Running -/

/-- Runs with the options given. -/
def runWith (s : Surroundings σ) (a : Arguments) : Sim (MemoryStore × σ) Outcome := do
  match configuration s a with
  | .error e => return { ending := .stopped (.config e) }
  | .ok c =>
    let shown := if a.verbose then ["DEBUG " ++ a.diagnostic, "DEBUG " ++ c.diagnostic] else []
    let settings := settings s a c
    match c.timing.timing with
    | .error e => return { shown, ending := .stopped (.window e) }
    | .ok timing =>
      match backend s settings.runAgainstLiveCluster with
      | .error e => return { shown, ending := .stopped (.connection e) }
      | .ok b =>
        match ← Scenario.run b timing settings (.addressRollout c.ns) with
        | .ok report => return { shown, ending := .ran report }
        | .error panic => return { shown, ending := .panicked panic }

/-- Does what the arguments ask for. -/
def run (s : Surroundings σ) (arguments : List String) : Sim (MemoryStore × σ) Outcome :=
  match Arguments.parse arguments with
  | .error e => return { ending := .stopped (.usage e) }
  | .ok .help => return { ending := .help }
  | .ok .version => return { ending := .version }
  | .ok (.run a) => runWith s a

/-! ### What is shown -/

/-- The text padded with blanks to a width. -/
def pad (width : Nat) (text : String) : String :=
  text ++ String.ofList (List.replicate (width - text.length) ' ')

/-- Help lines up the descriptions of the options two blanks after the longest of them. -/
def helpLines : List String :=
  let width := ((Opt.all.map fun o => o.usage.length).max?).getD 0
  ["Convergence and in-pod verification for ActiveMQ Artemis broker clusters managed by an "
      ++ "operator",
    "", "Usage: artemis-verify [OPTIONS]", "", "Options:"]
    ++ Opt.all.map fun o => "  " ++ pad width o.usage ++ "  " ++ o.about

def versionLine : String := "artemis-verify 0.1.0"

def reportLines (r : Scenario.Report) : List String :=
  ["phases:   " ++ " -> ".intercalate (r.trail.map Scenario.Phase.name),
    "created:  " ++ toString r.created.length,
    "deleted:  " ++ toString r.deleted.length]
    ++ (if r.verifiedWorkers.isEmpty then []
      else ["verified: " ++ ", ".intercalate r.verifiedWorkers])
    ++ r.cleanupErrors.map (fun e => "cleanup error: " ++ e.message)
    ++ [match r.failure with
      | some e => "FAILED: " ++ e.message
      | none => "PASSED"]

def Ending.lines : Ending → List String
  | .help => helpLines
  | .version => [versionLine]
  | .stopped _ | .panicked _ => []
  | .ran report => reportLines report

/-- All that the command writes to its output. -/
def Outcome.text (o : Outcome) : String :=
  String.join ((o.shown ++ o.ending.lines).map (· ++ "\n"))

/-- The command's exit code: wrong usage and panics have codes of their own. -/
def Ending.code : Ending → Nat
  | .help | .version => 0
  | .stopped (.usage _) => 2
  | .stopped _ => 1
  | .ran report => if report.passed then 0 else 1
  | .panicked _ => 101

/-- What went wrong before a run. -/
def Fault.message : Fault → String
  | .usage e => e.message
  | .config (.unreadable e) => e.message
  | .config .notToml => "the config file is no TOML"
  | .config (.misfit m) => m.message
  | .window e => e.message
  | .connection e => e.message

/-- What the command writes to its error output. -/
def Ending.errorLines : Ending → List String
  | .stopped fault => ["error: " ++ fault.message]
  | .panicked panic => ["panicked: " ++ panic.message]
  | .help | .version | .ran _ => []

end BrokerRollout.Command
