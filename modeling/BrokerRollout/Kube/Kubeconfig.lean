import BrokerRollout.Yaml.Document
import BrokerRollout.Yaml.Record

/-!
# Cluster configurations

A cluster configuration lists clusters, users and contexts by name and says which context is
current. A context ties a cluster to a user and a namespace. A file may hold several configurations,
of which the first that says something counts.
-/

namespace BrokerRollout.Kube

/-- A cluster: where its API server is and how that proves who it is. -/
structure Cluster where
  server : Option String := none
  /-- A file of certificates. -/
  authority : Option String := none
  /-- Certificates in base64, which count instead of the file. -/
  authorityData : Option String := none
  proxy : Option String := none
  /-- The name that the server's certificate is checked for. -/
  serverName : Option String := none
deriving DecidableEq

/-- A service that users log in with. -/
structure AuthProvider where
  name : String
  config : List (String × String)
deriving DecidableEq

/-- A command that users log in with. -/
structure LoginCommand where
  command : Option String
  arguments : List String
  /-- The command is told about the cluster. -/
  needsCluster : Bool
deriving DecidableEq

/-- A user: the ways to prove who they are. Each part of a certificate's pair is in a file, or in
base64. -/
structure User where
  name : Option String := none
  password : Option String := none
  token : Option String := none
  tokenFile : Option String := none
  certificate : Option String := none
  certificateData : Option String := none
  key : Option String := none
  keyData : Option String := none
  /-- Whom the user acts as. -/
  actsAs : Option String := none
  /-- The groups that the user acts in. -/
  actsIn : List String := []
  provider : Option AuthProvider := none
  login : Option LoginCommand := none
deriving DecidableEq

/-- A context: a cluster, and who works in which namespace of it. -/
structure Context where
  cluster : String
  user : Option String
  ns : Option String
deriving DecidableEq

/-- A configuration. Names may be listed without saying what they stand for. -/
structure Kubeconfig where
  apiVersion : Option String := none
  kind : Option String := none
  current : Option String := none
  clusters : List (String × Option Cluster) := []
  users : List (String × Option User) := []
  contexts : List (String × Option Context) := []
deriving DecidableEq

namespace Kubeconfig

open Yaml Yaml.Value

/-! ### Reading -/

/-- Anything under a name, which has to be there. -/
def extension? (v : Value) : Option Unit := do
  let fields ← v.fields?
  let _ ← required "name" text? fields
  required "extension" (fun v => if v.isJson then some () else none) fields

def extensions? (fields : List (String × Value)) : Option (Option (List Unit)) :=
  field "extensions" (list? extension?) fields

def preferences? (v : Value) : Option Unit := do
  let fields ← v.fields?
  let _ ← field "colors" flag? fields
  let _ ← extensions? fields
  return ()

def cluster? (v : Value) : Option Cluster := do
  let fields ← v.fields?
  let _ ← field "insecure-skip-tls-verify" flag? fields
  let _ ← field "disable-compression" flag? fields
  let _ ← extensions? fields
  return {
    server := ← field "server" text? fields
    authority := ← field "certificate-authority" text? fields
    authorityData := ← field "certificate-authority-data" text? fields
    proxy := ← field "proxy-url" text? fields
    serverName := ← field "tls-server-name" text? fields }

def provider? (v : Value) : Option AuthProvider := do
  let fields ← v.fields?
  return {
    name := ← required "name" text? fields
    config := ← defaulted "config" [] texts? fields }

def login? (v : Value) : Option LoginCommand := do
  let fields ← v.fields?
  let _ ← field "apiVersion" text? fields
  let _ ← field "env" (list? texts?) fields
  let _ ← field "interactiveMode" (word? ["Never", "IfAvailable", "Always"]) fields
  return {
    command := ← field "command" text? fields
    arguments := (← field "args" (list? text?) fields).getD []
    needsCluster := ← defaulted "provideClusterInfo" false flag? fields }

def user? (v : Value) : Option User := do
  let fields ← v.fields?
  return {
    name := ← field "username" text? fields
    password := ← field "password" text? fields
    token := ← field "token" text? fields
    tokenFile := ← field "tokenFile" text? fields
    certificate := ← field "client-certificate" text? fields
    certificateData := ← field "client-certificate-data" text? fields
    key := ← field "client-key" text? fields
    keyData := ← field "client-key-data" text? fields
    actsAs := ← field "as" text? fields
    actsIn := (← field "as-groups" (list? text?) fields).getD []
    provider := ← field "auth-provider" provider? fields
    login := ← field "exec" login? fields }

def context? (v : Value) : Option Context := do
  let fields ← v.fields?
  let _ ← extensions? fields
  return {
    cluster := ← required "cluster" text? fields
    user := ← field "user" text? fields
    ns := ← field "namespace" text? fields }

/-- Things under their names; the field `content` says what a name stands for. -/
def named? {α : Type} (content : String) (read : Value → Option α) (v : Value) :
    Option (String × Option α) := do
  let fields ← v.fields?
  return (← required "name" text? fields, ← field content read fields)

/-- A list of named things, which may be missing. -/
def listing {α : Type} (name content : String) (read : Value → Option α)
    (fields : List (String × Value)) : Option (List (String × Option α)) :=
  (field name (list? (named? content read)) fields).map (·.getD [])

def ofValue? (v : Value) : Option Kubeconfig := do
  let fields ← v.fields?
  let _ ← field "preferences" preferences? fields
  let _ ← extensions? fields
  return {
    apiVersion := ← field "apiVersion" text? fields
    kind := ← field "kind" text? fields
    current := ← field "current-context" text? fields
    clusters := ← listing "clusters" "cluster" cluster? fields
    users := ← listing "users" "user" user? fields
    contexts := ← listing "contexts" "context" context? fields }

/-! ### Several configurations -/

/-- Two texts of which not both are given, or which are the same. -/
def agree (a b : Option String) : Bool := a.isNone || b.isNone || a = b

/-- The first things and those of the later ones that have a new name. -/
def mergeNamed {α : Type} (first later : List (String × α)) : List (String × α) :=
  first ++ later.filter fun (name, _) => first.all (·.1 ≠ name)

/-- Two configurations in one; what the first says counts. They have to be of one kind. -/
def merge? (first later : Kubeconfig) : Option Kubeconfig :=
  if agree first.kind later.kind && agree first.apiVersion later.apiVersion then
    some {
      apiVersion := first.apiVersion.or later.apiVersion
      kind := first.kind.or later.kind
      current := first.current.or later.current
      clusters := mergeNamed first.clusters later.clusters
      users := mergeNamed first.users later.users
      contexts := mergeNamed first.contexts later.contexts }
  else none

/-- The configuration of a file's text, which may start with a mark of byte order. -/
def ofText? (text : String) : Option Kubeconfig := do
  let text := if text.startsWith "\ufeff" then (text.drop 1).copy else text
  let parts ← (← Yaml.documents? text).mapM ofValue?
  parts.foldlM merge? {}

/-! ### The current context -/

def context (k : Kubeconfig) : Option Context := do (← k.contexts.lookup (← k.current))

def cluster (k : Kubeconfig) (c : Context) : Option Cluster := (k.clusters.lookup c.cluster).join

/-- The user of a context. One who is not listed can do what anybody can. -/
def user (k : Kubeconfig) (c : Context) : User :=
  ((c.user.bind (List.lookup · k.users)).join).getD {}

end Kubeconfig

end BrokerRollout.Kube
