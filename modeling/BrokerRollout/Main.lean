import BrokerRollout.Command
import BrokerRollout.Kube
import BrokerRollout.Kube.Connection
import Std.Time.DateTime.Timestamp

/-!
# The program

Reads what the command needs from the outside, runs it, and writes what it shows. Requests to a
cluster's API server do not leave the program: a live run finds its server unreachable.
-/

namespace BrokerRollout.Command

/-- The content of a file, or why it cannot be read. -/
def readContent (path : String) : IO (Except Config.ReadError (List UInt8)) := do
  try
    return .ok (← IO.FS.readBinFile path).toList
  catch
    | .noFileOrDirectory .. => return .error .notFound
    | .inappropriateType .. => return .error .isDirectory
    | e => return .error (.other (toString e))

/-- The content of the config file that the arguments name. -/
def readConfig (arguments : List String) : IO (Except Config.ReadError (List UInt8)) := do
  match Arguments.parse arguments with
  | .ok (.run a) =>
    match a.config with
    | some path => readContent path
    | none => return .error .notFound
  | _ => return .error .notFound

/-- The path of the cluster configuration. -/
def kubeconfigPath : IO String := do
  match ← IO.getEnv "KUBECONFIG", ← IO.getEnv "HOME" with
  | some path, _ => return path
  | none, some home => return home ++ "/.kube/config"
  | none, none => return ".kube/config"

/-- Files, by their paths from a directory. -/
def readFiles (directory : String) (paths : List String) : IO (List (String × List UInt8)) := do
  let mut files := []
  for path in paths do
    let fullPath := if path.startsWith "/" then path else directory ++ "/" ++ path
    if let .ok content := ← readContent fullPath then files := (path, content) :: files
  return files

/-- Whether there is a cluster to connect to. -/
def connect : IO (Except Store.Error String) := do
  let path ← kubeconfigPath
  let content := match ← readContent path with
    | .ok content => (Text.ofUtf8 content).toOption
    | .error _ => none
  let paths := ((content.bind Kube.Kubeconfig.ofText?).map Kube.Kubeconfig.files).getD []
  let directory := "/".intercalate (path.splitOn "/").dropLast
  let files ← readFiles (if directory.isEmpty then "." else directory) paths
  let now ← Std.Time.Timestamp.now
  return Kube.connect { files := (files.lookup ·), now := now.toSecondsSinceUnixEpoch.val } content

/-- What the arguments make the command need from the outside. -/
def surroundings (arguments : List String) : IO (Surroundings Unit) := do
  let content ← readConfig arguments
  let live ← IO.getEnv Settings.liveClusterVariable
  let deploy ← IO.getEnv Settings.deployControllerVariable
  let connection ← connect
  return {
    contentOf := fun _ => content
    environment := fun name => ([(Settings.liveClusterVariable, live),
      (Settings.deployControllerVariable, deploy)].lookup name).join
    cluster := connection.map fun _ => Kube.backend .unreachable }

end BrokerRollout.Command

open BrokerRollout

def main (arguments : List String) : IO UInt32 := do
  let surroundings ← Command.surroundings arguments
  let (outcome, _) := (Command.run surroundings arguments).run { state := (.empty, ()) }
  IO.print outcome.text
  IO.eprint (String.join (outcome.ending.errorLines.map (· ++ "\n")))
  return outcome.ending.code.toUInt32
