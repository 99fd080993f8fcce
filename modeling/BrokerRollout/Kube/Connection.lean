import BrokerRollout.Certificate
import BrokerRollout.Http.ServerName
import BrokerRollout.Http.Uri
import BrokerRollout.Kube.Kubeconfig
import BrokerRollout.Kube.Timestamp
import BrokerRollout.Store.Answer

/-!
# Connecting to a cluster

A connection goes to the cluster of the current context as its user, and works in its namespace.
All that it needs is checked beforehand: the server's address, the certificates that are trusted,
and what the user proves who they are with. Nothing is sent, no command is run, and no proxy can be
used.
-/

namespace BrokerRollout.Kube

/-- The content of the files that can be read. -/
abbrev Files := String → Option (List UInt8)

/-- What a connection depends on beside its configuration. -/
structure Machine where
  files : Files
  /-- The seconds since 1970. -/
  now : Int

/-- Content that is given in base64 or else is in a file. -/
def contentOf? (files : Files) (data file : Option String) : Option (List UInt8) :=
  match data with
  | some data => Text.ofBase64? data.toList
  | none => file.bind files

/-- Bytes whose last line is ended. -/
def endLastLine (bytes : List UInt8) : List UInt8 :=
  if bytes.getLast?.all (· = 0x0a) then bytes else bytes ++ [0x0a]

/-! ### The cluster -/

/-- Whether the certificates of a cluster, if it has any, can be trusted. -/
def Cluster.hasAnchors (files : Files) (c : Cluster) : Bool :=
  if c.authority.isNone && c.authorityData.isNone then true
  else
    match (contentOf? files c.authorityData c.authority).bind Certificate.Pem.ofBytes? with
    | some blocks =>
      (blocks.filter (·.label = "CERTIFICATE")).all fun block =>
        Certificate.isAnchor block.content
    | none => false

/-- Whether a connection to the cluster can be set up. -/
def Cluster.isUsable (files : Files) (c : Cluster) : Bool :=
  (c.server.bind Http.Uri.parse?).isSome && c.hasAnchors files && c.serverName.all Http.isServerName
    && c.proxy.all String.isEmpty

/-! ### The user -/

/-- Whether a token is kept that does not expire within a minute. -/
def AuthProvider.keepsToken (now : Int) (p : AuthProvider) : Bool :=
  match p.config.lookup "access-token", p.config.lookup "expiry" with
  | some _, some expiry =>
    match Timestamp.parse expiry with
    | .ok stamp => now + 60 < stamp.moment
    | .error _ => false
  | _, _ => false

/-- Whether a service has given a token. -/
def AuthProvider.hasToken (now : Int) (p : AuthProvider) : Bool :=
  let identity := (p.config.lookup "id-token").isSome
  (p.name = "oidc" && identity) || (p.name = "gcp" && (identity || p.keepsToken now))

/-- Whether the user has all that one way to log in needs. The ways are tried in turn; who has none
of them is anonymous. -/
def User.canLogIn (m : Machine) (u : User) : Bool :=
  match u.provider with
  | some provider => provider.hasToken m.now
  | none =>
    if (u.name.isSome && u.password.isSome) || u.token.isSome then true
    else
      match u.tokenFile with
      | some file => ((m.files file).bind fun bytes => (Text.ofUtf8 bytes).toOption).isSome
      | none => u.login.isNone

/-- The labels of private keys. -/
def keyLabels : List String := ["PRIVATE KEY", "RSA PRIVATE KEY", "EC PRIVATE KEY"]

/-- The labels of blocks that have no place beside a private key. -/
def strayLabels : List String := ["PUBLIC KEY", "X509 CRL", "CERTIFICATE REQUEST"]

/-- Whether blocks are a certificate with its private key. -/
def isIdentity (blocks : List Certificate.Pem) : Bool :=
  let certificates := blocks.filter (·.label = "CERTIFICATE")
  let keys := blocks.filter (·.label ∈ keyLabels)
  (blocks.all (·.label ∉ strayLabels)) && !keys.isEmpty
    && (keys.all fun key => (Certificate.Der.only Certificate.Der.sequence key.content).isSome)
    && certificates.head?.any fun block => Certificate.isAnchor block.content

/-- Whether the user's certificate is well-formed. One that cannot be read, or whose key cannot,
does not count. -/
def User.hasIdentity (files : Files) (u : User) : Bool :=
  match contentOf? files u.keyData u.key, contentOf? files u.certificateData u.certificate with
  | some key, some certificate =>
    (Certificate.Pem.ofBytes? (endLastLine key ++ certificate)).any isIdentity
  | _, _ => true

/-- Whether a text can stand in a header. -/
def isHeaderValue (text : String) : Bool :=
  text.toList.all fun c => c = '\t' || (' ' ≤ c && c ≠ '\x7f')

/-- Whether requests can be made as the user. -/
def User.isUsable (m : Machine) (u : User) : Bool :=
  u.canLogIn m && u.hasIdentity m.files && (u.actsAs.toList ++ u.actsIn).all isHeaderValue

/-! ### Connections -/

/-- The namespace of a connection by a configuration. -/
def Kubeconfig.connect? (m : Machine) (k : Kubeconfig) : Option String := do
  let context ← k.context
  let cluster ← k.cluster context
  if cluster.isUsable m.files && (k.user context).isUsable m then
    some (context.ns.getD "default")
  else none

/-- The files that a connection by a configuration looks into. -/
def Kubeconfig.files (k : Kubeconfig) : List String :=
  match k.context with
  | none => []
  | some context =>
    let user := k.user context
    (((k.cluster context).bind Cluster.authority).toList
      ++ [user.tokenFile, user.certificate, user.key].filterMap id)

/-- Tries to connect by a configuration file's content, if there is one, and gives the namespace of
the connection. -/
def connect (m : Machine) (content : Option String) : Except Store.Error String :=
  match (content.bind Kubeconfig.ofText?).bind (·.connect? m) with
  | some ns => .ok ns
  | none => .error (.connectionFailed "no usable cluster configuration")

end BrokerRollout.Kube
