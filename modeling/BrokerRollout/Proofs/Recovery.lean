import BrokerRollout.Proofs.JsonOrder
import BrokerRollout.Resource

/-!
# Resources from manifests

A manifest loses nothing: a reader of manifests gets the resource back, whatever the order in which
the members of the manifest stand (`Resource.manifest_recovers`). A list or an optional text reads
back as its parts do, and a record as its members do, so there is one lemma for each of those and
one for each record that builds on them.
-/

namespace BrokerRollout

/-! ### Readers -/

namespace Json

variable {α : Type} {read : Json → Option α} {write : α → Json} {name : String} {a : α} {x y : Json}

/-- The member of that name, as `read` understands it. -/
def field? (read : Json → Option α) (name : String) (x : Json) : Option α :=
  (x.member? name).bind read

/-- A member that need not be there. -/
def fieldIfAny? (read : Json → Option α) (name : String) (x : Json) : Option (Option α) :=
  match x.member? name with
  | some value => (read value).map some
  | none => some none

def list? (read : Json → Option α) : Json → Option (List α)
  | .array items => items.mapM read
  | _ => none

def optional? : Json → Option (Option String)
  | .null => some none
  | .string text => some (some text)
  | _ => none

/-- `read` gets back what was written, from any value that is the same. -/
def Recovers (read : Json → Option α) (write : α → Json) : Prop :=
  ∀ ⦃x : Json⦄ ⦃a : α⦄, x.Same (write a) → read x = some a

theorem Recovers.inj (recovers : Recovers read write) {b : α} (same : (write a).Same (write b)) :
    a = b := by
  have readA : read (write a) = some a := recovers (.refl _)
  have readB : read (write a) = some b := recovers same
  exact Option.some.inj (readA.symm.trans readB)

theorem Recovers.field (recovers : Recovers read write) (same : x.Same y)
    (held : y.member? name = some (write a)) : x.field? read name = some a := by
  obtain ⟨u, found, sameMember⟩ := same.member? name held
  rw [field?, found, Option.bind_some, recovers sameMember]

theorem Recovers.fieldIfAny (recovers : Recovers read write) (same : x.Same y) {value : Option α}
    (held : y.member? name = value.map write) : x.fieldIfAny? read name = some value := by
  cases value with
  | none => rw [fieldIfAny?, same.noMember held]
  | some a =>
    obtain ⟨u, found, sameMember⟩ := same.member? name held
    simp only [fieldIfAny?, found, recovers sameMember, Option.map_some]

theorem recovers_string : Recovers string? .string := fun _ _ same => by rw [same.string, string?]

theorem recovers_bool : Recovers bool? .bool := fun _ _ same => by rw [same.bool, bool?]

theorem recovers_nat : Recovers nat? ofNat := fun _ _ same => by rw [same.number]; rfl

theorem recovers_optional : Recovers optional? optional := by
  rintro x (_ | text) same
  · rw [same.null, optional?]
  · rw [same.string, optional?]

theorem mapM_of_forall₂ {items : List Json} {as : List α}
    (each : List.Forall₂ (fun item a => read item = some a) items as) :
    items.mapM read = some as := by
  induction each with
  | nil => rfl
  | cons readItem _ ih => simp [readItem, ih]

theorem Recovers.list (recovers : Recovers read write) :
    Recovers (list? read) fun as => .array (as.map write) := by
  intro x as same
  obtain ⟨items, rfl, each⟩ := same.array
  have eachRead : List.Forall₂ (fun item a => read item = some a) items as :=
    (List.forall₂_map_right_iff.1 each).imp fun _ _ sameItem => recovers sameItem
  exact mapM_of_forall₂ eachRead

end Json

/-! ### Identity -/

def Kind.ofName? (name : String) : Option Kind :=
  [Kind.cluster, .address, .security].find? (·.name == name)

theorem Kind.ofName?_name (kind : Kind) : ofName? kind.name = some kind := by
  cases kind <;> rfl

open Json (Recovers field? fieldIfAny? list? optional? string? nat? bool? recovers_string
  recovers_optional recovers_bool recovers_nat)

/-- The identity that a manifest gives, and its specification. -/
def Ref.ofManifest? (x : Json) : Option (Ref × Json) := do
  let kind ← Kind.ofName? (← x.field? string? "kind")
  let metadata ← x.member? "metadata"
  let ns ← metadata.field? string? "namespace"
  let name ← metadata.field? string? "name"
  let spec ← x.member? "spec"
  return (⟨kind, ns, name⟩, spec)

variable {x : Json}

theorem Ref.ofManifest?_manifest {r : Ref} {spec : Json} (same : x.Same (r.manifest spec)) :
    ∃ given, ofManifest? x = some (r, given) ∧ given.Same spec := by
  have kind : x.field? string? "kind" = some r.kind.name := recovers_string.field same rfl
  obtain ⟨metadata, hasMetadata, sameMetadata⟩ := same.member? "metadata" rfl
  have ns : metadata.field? string? "namespace" = some r.ns :=
    recovers_string.field sameMetadata rfl
  have name : metadata.field? string? "name" = some r.name :=
    recovers_string.field sameMetadata rfl
  obtain ⟨given, hasSpec, sameSpec⟩ := same.member? "spec" rfl
  refine ⟨given, ?_, sameSpec⟩
  simp [ofManifest?, kind, Kind.ofName?_name, hasMetadata, ns, name, hasSpec]

/-! ### Specifications -/

namespace Cluster

def readiness? (x : Json) : Option Readiness := do
  let initialDelaySeconds ← x.field? nat? "initialDelaySeconds"
  let periodSeconds ← x.field? nat? "periodSeconds"
  return ⟨initialDelaySeconds, periodSeconds⟩

theorem recovers_readiness : Recovers readiness? readinessManifest := by
  intro x r same
  have delay : x.field? nat? "initialDelaySeconds" = some r.initialDelaySeconds :=
    recovers_nat.field same rfl
  have period : x.field? nat? "periodSeconds" = some r.periodSeconds :=
    recovers_nat.field same rfl
  simp [readiness?, delay, period]

/-- The cluster in a manifest of that kind. -/
def ofManifest? (x : Json) : Option Cluster := do
  let (ref, spec) ← Ref.ofManifest? x
  let plan ← spec.member? "deploymentPlan"
  let replicas ← plan.field? nat? "size"
  let readiness ← plan.fieldIfAny? readiness? "readinessProbe"
  return ⟨ref.name, ref.ns, replicas, readiness⟩

theorem recovers : Recovers ofManifest? manifest := by
  intro x c same
  obtain ⟨spec, identity, sameSpec⟩ := Ref.ofManifest?_manifest same
  obtain ⟨plan, hasPlan, samePlan⟩ := sameSpec.member? "deploymentPlan" rfl
  have replicas : plan.field? nat? "size" = some c.replicas := by
    refine recovers_nat.field samePlan ?_
    cases c.readiness <;> rfl
  have readiness : plan.fieldIfAny? readiness? "readinessProbe" = some c.readiness := by
    refine recovers_readiness.fieldIfAny samePlan ?_
    cases c.readiness <;> rfl
  simp [ofManifest?, identity, ref, hasPlan, replicas, readiness]

end Cluster

def Routing.ofName? (name : String) : Option Routing :=
  [Routing.anycast, .multicast].find? (·.name == name)

theorem Routing.ofName?_name (routing : Routing) : ofName? routing.name = some routing := by
  cases routing <;> rfl

namespace Address

/-- The address in a manifest of that kind. -/
def ofManifest? (x : Json) : Option Address := do
  let (ref, spec) ← Ref.ofManifest? x
  let addressName ← spec.field? string? "addressName"
  let queueName ← spec.field? string? "queueName"
  let routing ← Routing.ofName? (← spec.field? string? "routingType")
  let queue ← spec.member? "queueConfiguration"
  let autoDelete ← queue.field? bool? "autoDelete"
  return ⟨ref.name, ref.ns, addressName, queueName, routing, autoDelete⟩

theorem recovers : Recovers ofManifest? manifest := by
  intro x a same
  obtain ⟨spec, identity, sameSpec⟩ := Ref.ofManifest?_manifest same
  have addressName : spec.field? string? "addressName" = some a.addressName :=
    recovers_string.field sameSpec rfl
  have queueName : spec.field? string? "queueName" = some a.queueName :=
    recovers_string.field sameSpec rfl
  have routing : spec.field? string? "routingType" = some a.routing.name :=
    recovers_string.field sameSpec rfl
  obtain ⟨queue, hasQueue, sameQueue⟩ := sameSpec.member? "queueConfiguration" rfl
  have autoDelete : queue.field? bool? "autoDelete" = some a.autoDelete :=
    recovers_bool.field sameQueue rfl
  simp [ofManifest?, identity, ref, addressName, queueName, routing, Routing.ofName?_name, hasQueue,
    autoDelete]

end Address

namespace Security

def user? (x : Json) : Option User := do
  let name ← x.field? string? "name"
  let password ← x.field? optional? "password"
  let roles ← x.field? (list? string?) "roles"
  return ⟨name, password, roles⟩

theorem recovers_user : Recovers user? userManifest := by
  intro x u same
  have name : x.field? string? "name" = some u.name := recovers_string.field same rfl
  have password : x.field? optional? "password" = some u.password :=
    recovers_optional.field same rfl
  have roles : x.field? (list? string?) "roles" = some u.roles :=
    recovers_string.list.field same rfl
  simp [user?, name, password, roles]

def module? (x : Json) : Option LoginModule := do
  let name ← x.field? string? "name"
  let users ← x.field? (list? user?) "users"
  return ⟨name, users⟩

theorem recovers_module : Recovers module? moduleManifest := by
  intro x m same
  have name : x.field? string? "name" = some m.name := recovers_string.field same rfl
  have users : x.field? (list? user?) "users" = some m.users := recovers_user.list.field same rfl
  simp [module?, name, users]

def reference? (x : Json) : Option LoginReference := do
  let name ← x.field? string? "name"
  let flag ← x.field? string? "flag"
  return ⟨name, flag⟩

theorem recovers_reference : Recovers reference? referenceManifest := by
  intro x r same
  have name : x.field? string? "name" = some r.name := recovers_string.field same rfl
  have flag : x.field? string? "flag" = some r.flag := recovers_string.field same rfl
  simp [reference?, name, flag]

def domain? (x : Json) : Option Domain := do
  let name ← x.field? string? "name"
  let references ← x.field? (list? reference?) "loginModules"
  return ⟨name, references⟩

theorem recovers_domain : Recovers domain? domainManifest := by
  intro x d same
  have name : x.field? string? "name" = some d.name := recovers_string.field same rfl
  have references : x.field? (list? reference?) "loginModules" = some d.references :=
    recovers_reference.list.field same rfl
  simp [domain?, name, references]

/-- The security resource in a manifest of that kind. -/
def ofManifest? (x : Json) : Option Security := do
  let (ref, spec) ← Ref.ofManifest? x
  let modules ← (← spec.member? "loginModules").field? (list? module?) "propertiesLoginModules"
  let domain ← (← spec.member? "securityDomains").field? domain? "brokerDomain"
  return ⟨ref.name, ref.ns, modules, domain⟩

theorem recovers : Recovers ofManifest? manifest := by
  intro x s same
  obtain ⟨spec, identity, sameSpec⟩ := Ref.ofManifest?_manifest same
  obtain ⟨logins, hasLogins, sameLogins⟩ := sameSpec.member? "loginModules" rfl
  have modules : logins.field? (list? module?) "propertiesLoginModules" = some s.modules :=
    recovers_module.list.field sameLogins rfl
  obtain ⟨domains, hasDomains, sameDomains⟩ := sameSpec.member? "securityDomains" rfl
  have domain : domains.field? domain? "brokerDomain" = some s.domain :=
    recovers_domain.field sameDomains rfl
  simp [ofManifest?, identity, ref, hasLogins, modules, hasDomains, domain]

end Security

/-! ### Resources -/

namespace Resource

def ofManifest? (x : Json) : Option Resource := do
  let (ref, _) ← Ref.ofManifest? x
  match ref.kind with
  | .cluster => (Cluster.ofManifest? x).map .cluster
  | .address => (Address.ofManifest? x).map .address
  | .security => (Security.ofManifest? x).map .security

theorem recovers : Recovers ofManifest? manifest := by
  intro x r same
  cases r with
  | cluster c =>
    obtain ⟨_, identity, _⟩ := Ref.ofManifest?_manifest same
    simp [ofManifest?, identity, Cluster.ref, Cluster.recovers same]
  | address a =>
    obtain ⟨_, identity, _⟩ := Ref.ofManifest?_manifest same
    simp [ofManifest?, identity, Address.ref, Address.recovers same]
  | security s =>
    obtain ⟨_, identity, _⟩ := Ref.ofManifest?_manifest same
    simp [ofManifest?, identity, Security.ref, Security.recovers same]

/-- A value that is the same as a manifest tells the resource, so resources whose manifests are the
same are equal. -/
theorem manifest_recovers (r : Resource) :
    (∀ x : Json, x.Same r.manifest → ofManifest? x = some r) ∧
      ∀ q : Resource, r.manifest.Same q.manifest ↔ r = q := by
  refine ⟨fun x same => recovers same, fun q => ⟨recovers.inj, ?_⟩⟩
  rintro rfl
  exact .refl _

/-- The manifest of a cluster with its members in another order. -/
theorem manifest_recovers_reordered : ofManifest? (.object [
      ("spec", .object [("deploymentPlan", .object [("size", .ofNat 2)])]),
      ("metadata", .object [("namespace", "shop"), ("name", "mq")]),
      ("kind", "ActiveMQArtemis"),
      ("apiVersion", "broker.amq.io/v1beta1")]) =
    some (.cluster { name := "mq", ns := "shop", replicas := 2 }) :=
  (manifest_recovers (.cluster { name := "mq", ns := "shop", replicas := 2 })).1 _ rfl

end Resource

end BrokerRollout
