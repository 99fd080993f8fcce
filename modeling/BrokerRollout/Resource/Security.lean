import BrokerRollout.Resource.Ref

/-!
# Security domains

A security resource declares login modules and names those that the broker's domain goes through.
-/

namespace BrokerRollout

structure User where
  name : String
  password : Option String
  roles : List String
deriving DecidableEq

/-- A login module that reads its users from a list. -/
structure LoginModule where
  name : String
  users : List User
deriving DecidableEq

/-- A login module that a domain goes through, and the control flag it does so with. -/
structure LoginReference where
  name : String
  flag : String
deriving DecidableEq

structure Domain where
  name : String
  references : List LoginReference
deriving DecidableEq

/-- A security resource as it is wanted. -/
structure Security where
  name : String
  ns : String
  modules : List LoginModule
  domain : Domain
deriving DecidableEq

namespace Security

/-- The first reference of the domain to a login module that is not declared. -/
def undeclared? (s : Security) : Option LoginReference :=
  s.domain.references.find? fun r => !s.modules.any (·.name == r.name)

def ref (s : Security) : Ref := ⟨.security, s.ns, s.name⟩

def userManifest (u : User) : Json :=
  .object [
    ("name", u.name),
    ("password", .optional u.password),
    ("roles", .strings u.roles)]

def moduleManifest (m : LoginModule) : Json :=
  .object [("name", m.name), ("users", .array (m.users.map userManifest))]

def referenceManifest (r : LoginReference) : Json :=
  .object [("name", r.name), ("flag", r.flag)]

def domainManifest (d : Domain) : Json :=
  .object [
    ("name", d.name),
    ("loginModules", .array (d.references.map referenceManifest))]

def manifest (s : Security) : Json :=
  s.ref.manifest (.object [
    ("loginModules", .object [
      ("propertiesLoginModules", .array (s.modules.map moduleManifest))]),
    ("securityDomains", .object [("brokerDomain", domainManifest s.domain)])])

end Security

end BrokerRollout
