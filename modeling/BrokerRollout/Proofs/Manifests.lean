import BrokerRollout.Kube.Store
import BrokerRollout.Proofs.JsonShapes

/-!
# Manifests as documents

A manifest is an object as an API server sends it, so the text of a manifest is read back as the
manifest (`Kube.documentOf_manifest`). It has no status, and nothing is made out to be ready.
-/

namespace BrokerRollout

open Json (Admits Shape)

/-- The numbers of the resource have 32 bits. -/
def Resource.Narrow : Resource → Prop
  | .cluster c => c.replicas < UInt32.size ∧
    ∀ r ∈ c.readiness, r.initialDelaySeconds < UInt32.size ∧ r.periodSeconds < UInt32.size
  | .address _ | .security _ => True

variable {depth : Nat}

theorem Json.admits_nat {m : Nat} (narrow : m < UInt32.size) :
    Admits depth .anything (.ofNat m) :=
  .nat (Nat.lt_trans narrow (by decide))

theorem Json.admits_optional (text : Option String) : Admits depth .anything (.optional text) := by
  cases text with
  | none => exact .null
  | some text => exact .string

/-! ### Specifications -/

/-- The specification in a manifest. -/
def Resource.spec (r : Resource) : Json := (r.manifest.member? "spec").getD .null

theorem Resource.manifest_eq (r : Resource) : r.manifest = r.ref.manifest r.spec := by
  cases r <;> rfl

theorem Cluster.readiness_admits {r : Readiness}
    (narrow : r.initialDelaySeconds < UInt32.size ∧ r.periodSeconds < UInt32.size) :
    Admits (depth + 1) .anything (readinessManifest r) :=
  .member (Json.admits_nat narrow.1) (.member (Json.admits_nat narrow.2) .noMembers)

theorem Security.user_admits (u : User) : Admits (depth + 2) .anything (userManifest u) :=
  .member .string (.member (Json.admits_optional u.password)
    (.member (.arrayMap (fun _ => .string) u.roles) .noMembers))

theorem Security.module_admits (m : LoginModule) :
    Admits (depth + 4) .anything (moduleManifest m) :=
  .member .string (.member (.arrayMap user_admits m.users) .noMembers)

theorem Security.reference_admits (r : LoginReference) :
    Admits (depth + 1) .anything (referenceManifest r) :=
  .member .string (.member .string .noMembers)

theorem Security.domain_admits (d : Domain) : Admits (depth + 3) .anything (domainManifest d) :=
  .member .string (.member (.arrayMap reference_admits d.references) .noMembers)

theorem Resource.spec_admits {r : Resource} (narrow : r.Narrow) :
    Admits (depth + 7) .anything r.spec := by
  cases r with
  | cluster c =>
    obtain ⟨name, ns, count, readiness⟩ := c
    obtain ⟨size, probes⟩ := narrow
    cases readiness with
    | none => exact .member (.member (Json.admits_nat size) .noMembers) .noMembers
    | some r =>
      have probe : Admits (depth + 5) .anything (Cluster.readinessManifest r) :=
        Cluster.readiness_admits (probes r rfl)
      exact .member (.member (Json.admits_nat size) (.member probe .noMembers)) .noMembers
  | address a =>
    exact .member .string (.member .string (.member .string
      (.member (.member .bool .noMembers) .noMembers)))
  | security s =>
    exact .member (.member (.arrayMap Security.module_admits s.modules) .noMembers)
      (.member (.member (Security.domain_admits s.domain) .noMembers) .noMembers)

/-! ### Manifests -/

namespace Kube

/-- Fields that are all optional. -/
theorem free_of_optional {fields : List (Json.Field Shape)}
    (same : fields.map (fun f => Schema.optional f.name f.shape) = fields) :
    ∀ f ∈ fields, f.presence = .missable ∨ f.presence = .optional := by
  intro f member
  rw [← same] at member
  obtain ⟨g, -, rfl⟩ := List.mem_map.1 member
  exact .inr rfl

theorem metadata_admits (r : Ref) :
    Admits (depth + 1) Schema.metadata (.object [("name", r.name), ("namespace", r.ns)]) :=
  .field (f := Schema.text "name") rfl .text (by simp)
    (.field (f := Schema.text "namespace") rfl .text (by simp) (.noFields (free_of_optional rfl)))

theorem manifest_admits {r : Resource} (narrow : r.Narrow) :
    Admits (depth + 8) Schema.object r.manifest := by
  rw [Resource.manifest_eq]
  refine .extra rfl rfl .string (by simp) (.extra rfl rfl .string (by simp) ?_)
  refine .field (f := ⟨"metadata", Schema.metadata, .missable⟩) rfl (metadata_admits _) (by simp) ?_
  exact .extra rfl rfl (Resource.spec_admits narrow) (by simp) (.noFields (by simp))

/-! ### Responses -/

theorem textOf_utf8 {status : Nat} (success : status < 400) (text : String) :
    textOf (.ok ⟨status, Text.utf8 text⟩) = .ok text := by
  rw [textOf, Text.ofUtf8_utf8]
  exact if_neg fun failed => absurd failed.1 (Nat.not_le.2 success)

/-- The document of a response that did not fail. -/
theorem documentOf_compact {shape : Shape} {x : Json} {status : Nat}
    (admits : Admits Shape.maxDepth shape x) (success : status < 400) :
    documentOf shape (.ok ⟨status, Text.utf8 x.compact⟩) = .ok x := by
  rw [documentOf, textOf_utf8 success]
  dsimp only
  rw [Shape.read_compact admits]
  rfl

variable {r : Resource} {status : Nat}

theorem documentOf_manifest (narrow : r.Narrow) (success : status < 400) :
    documentOf Schema.object (.ok ⟨status, Text.utf8 r.manifest.compact⟩) = .ok r.manifest :=
  documentOf_compact (manifest_admits narrow) success

theorem readyWorkers_manifest (r : Resource) : readyWorkers r.manifest = .ok [] := by
  rw [Resource.manifest_eq]
  rfl

end Kube

end BrokerRollout
