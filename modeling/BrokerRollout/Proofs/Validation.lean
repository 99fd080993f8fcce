import BrokerRollout.Scenario
import BrokerRollout.Store.Memory

/-!
# Sound plans

In a sound plan every resource has a name, the security domain goes through declared login modules
only, and no two resources are the same. Validation accepts the sound plans, and of any other plan
it tells the first fault (`Plan.firstFault_eq_ok_iff`, `Plan.firstFault_eq_error_iff`). Main
statement: `Plan.validate_exact`.
-/

namespace BrokerRollout

/-! ### One resource -/

/-- The security resource declares a login module of that name. -/
def Security.Declares (s : Security) (name : String) : Prop := ∃ m ∈ s.modules, m.name = name

/-- A resource that is fit for submission, as far as it alone is concerned. -/
structure Resource.Sound (r : Resource) : Prop where
  named : r.ref.name ≠ ""
  declared : ∀ s, r = .security s → ∀ x ∈ s.domain.references, s.Declares x.name

/-- The fault of a resource that follows others with the refs `seen`. A missing name comes before a
login module that is not declared, and both come before a repetition. -/
inductive Resource.Fault (seen : List Ref) : Resource → SpecError → Prop where
  | unnamed {r : Resource} (nameless : r.ref.name = "") : Fault seen r (.emptyName r.ref.kind)
  | undeclared {s : Security} {before after : List LoginReference} {missing : LoginReference}
      (named : s.name ≠ "") (place : s.domain.references = before ++ missing :: after)
      (declared : ∀ x ∈ before, s.Declares x.name) (absent : ¬s.Declares missing.name) :
      Fault seen (.security s) (.unknownLoginModule missing.name)
  | repeated {r : Resource} (sound : r.Sound) (again : r.ref ∈ seen) :
      Fault seen r (.duplicateName r.ref.kind r.ref.name)

variable {r : Resource} {s : Security} {e : SpecError} {seen : List Ref}
  {resources : List Resource} {p : Plan}

theorem Security.any_declares {name : String} :
    s.modules.any (·.name == name) = true ↔ s.Declares name := by
  simp [Declares]

theorem Security.undeclared?_eq_none_iff :
    s.undeclared? = none ↔ ∀ x ∈ s.domain.references, s.Declares x.name := by
  rw [undeclared?, List.find?_eq_none]
  simp only [Bool.not_eq_true', Bool.not_eq_false, any_declares]

theorem Security.undeclared?_eq_some_iff {missing : LoginReference} :
    s.undeclared? = some missing ↔ ¬s.Declares missing.name ∧
      ∃ before after, s.domain.references = before ++ missing :: after ∧
        ∀ x ∈ before, s.Declares x.name := by
  rw [undeclared?, List.find?_eq_some_iff_append]
  simp only [Bool.not_eq_true', Bool.not_not, any_declares, ← Bool.not_eq_true]

namespace Resource

theorem Fault.mono {wider : List Ref} (h : r.Fault seen e) (all : seen ⊆ wider) :
    r.Fault wider e := by
  cases h with
  | unnamed nameless => exact .unnamed nameless
  | undeclared named place declared absent => exact .undeclared named place declared absent
  | repeated sound again => exact .repeated sound (all again)

theorem validate_nameless (nameless : r.ref.name = "") :
    r.validate = .error (.emptyName r.ref.kind) :=
  if_pos (String.isEmpty_iff.2 nameless)

theorem isEmpty_of_named (named : r.ref.name ≠ "") : ¬r.ref.name.isEmpty = true :=
  fun empty => named (String.isEmpty_iff.1 empty)

theorem validate_security (named : s.name ≠ "") :
    (security s).validate = match s.undeclared? with
      | some missing => .error (.unknownLoginModule missing.name)
      | none => .ok () :=
  if_neg (isEmpty_of_named (r := security s) named)

/-- Validation tells the faults that a resource has by itself. -/
theorem Fault.validate (fault : r.Fault seen e) :
    r.validate = .error e ∨
      r.Sound ∧ r.ref ∈ seen ∧ e = .duplicateName r.ref.kind r.ref.name := by
  cases fault with
  | unnamed nameless => exact .inl (validate_nameless nameless)
  | undeclared named place declared absent =>
    have missing := Security.undeclared?_eq_some_iff.2 ⟨absent, _, _, place, declared⟩
    refine .inl ?_
    rw [validate_security named, missing]
  | repeated sound again => exact .inr ⟨sound, again, rfl⟩

theorem validate_cases (r : Resource) :
    r.validate = .ok () ∧ r.Sound ∨ ∃ e, r.validate = .error e ∧ r.Fault [] e := by
  by_cases nameless : r.ref.name = ""
  · exact .inr ⟨_, validate_nameless nameless, .unnamed nameless⟩
  have named := isEmpty_of_named nameless
  cases r with
  | cluster c => exact .inl ⟨if_neg named, nameless, nofun⟩
  | address a => exact .inl ⟨if_neg named, nameless, nofun⟩
  | security s =>
    rw [validate_security nameless]
    cases missing : s.undeclared? with
    | none =>
      refine .inl ⟨rfl, nameless, ?_⟩
      rintro _ ⟨⟩
      exact Security.undeclared?_eq_none_iff.1 missing
    | some x =>
      obtain ⟨absent, before, after, place, declared⟩ := Security.undeclared?_eq_some_iff.1 missing
      exact .inr ⟨_, rfl, .undeclared nameless place declared absent⟩

theorem Sound.validate (sound : r.Sound) : r.validate = .ok () := by
  rcases r.validate_cases with ⟨valid, -⟩ | ⟨e, -, fault⟩
  · exact valid
  cases fault with
  | unnamed nameless => exact absurd nameless sound.named
  | undeclared _ place _ absent =>
    exact absurd (sound.declared _ rfl _ (by simp [place])) absent
  | repeated _ again => cases again

end Resource

/-! ### Resources in a row -/

namespace Plan

theorem firstFault_cons (sound : r.Sound) (fresh : r.ref ∉ seen) :
    firstFault seen (r :: resources) = firstFault (r.ref :: seen) resources := by
  rw [firstFault, sound.validate]
  exact if_neg fresh

theorem firstFault_here (fault : r.Fault seen e) :
    firstFault seen (r :: resources) = .error e := by
  rw [firstFault]
  rcases fault.validate with invalid | ⟨sound, again, rfl⟩
  · rw [invalid]
  · rw [sound.validate]
    exact if_pos again

/-- Either a resource has a fault after those with the refs `seen`, or it is sound and new. -/
theorem fault_or_fresh (r : Resource) (seen : List Ref) :
    r.Sound ∧ r.ref ∉ seen ∨ ∃ e, r.Fault seen e := by
  rcases r.validate_cases with ⟨-, sound⟩ | ⟨e, -, fault⟩
  · by_cases again : r.ref ∈ seen
    · exact .inr ⟨_, .repeated sound again⟩
    · exact .inl ⟨sound, again⟩
  · exact .inr ⟨e, fault.mono (List.nil_subset _)⟩

/-- The resources follow others with the refs `seen`, and none of them has a fault. -/
structure Faultless (seen : List Ref) (resources : List Resource) : Prop where
  sound : ∀ r ∈ resources, r.Sound
  distinct : (resources.map Resource.ref).Nodup
  fresh : ∀ r ∈ resources, r.ref ∉ seen

theorem faultless_nil : Faultless seen [] := ⟨by simp, List.nodup_nil, by simp⟩

theorem faultless_cons : Faultless seen (r :: resources) ↔
    (r.Sound ∧ r.ref ∉ seen) ∧ Faultless (r.ref :: seen) resources := by
  constructor
  · rintro ⟨sound, distinct, fresh⟩
    obtain ⟨here, sound⟩ := List.forall_mem_cons.1 sound
    obtain ⟨new, fresh⟩ := List.forall_mem_cons.1 fresh
    obtain ⟨apart, distinct⟩ := List.nodup_cons.1 distinct
    refine ⟨⟨here, new⟩, sound, distinct, fun q member old => ?_⟩
    rcases List.mem_cons.1 old with same | old
    · exact apart (same ▸ List.mem_map_of_mem member)
    · exact fresh q member old
  · rintro ⟨⟨here, new⟩, sound, distinct, fresh⟩
    refine ⟨List.forall_mem_cons.2 ⟨here, sound⟩, List.nodup_cons.2 ⟨fun again => ?_, distinct⟩,
      List.forall_mem_cons.2 ⟨new, fun q member old => ?_⟩⟩
    · obtain ⟨q, member, same⟩ := List.mem_map.1 again
      exact fresh q member (same ▸ List.mem_cons_self)
    · exact fresh q member (List.mem_cons_of_mem _ old)

/-- The first resource with a fault follows others that have none. -/
def FaultIn (seen : List Ref) (resources : List Resource) (e : SpecError) : Prop :=
  ∃ earlier r later, resources = earlier ++ r :: later ∧ Faultless seen earlier ∧
    r.Fault (earlier.map Resource.ref ++ seen) e

theorem firstFault_faultless (h : Faultless seen resources) :
    firstFault seen resources = .ok () := by
  induction resources generalizing seen with
  | nil => rfl
  | cons r rest ih =>
    obtain ⟨⟨sound, fresh⟩, later⟩ := faultless_cons.1 h
    rw [firstFault_cons sound fresh, ih later]

theorem firstFault_faultIn (h : FaultIn seen resources e) :
    firstFault seen resources = .error e := by
  obtain ⟨earlier, r, later, rfl, faultless, fault⟩ := h
  induction earlier generalizing seen with
  | nil => exact firstFault_here fault
  | cons q earlier ih =>
    obtain ⟨⟨sound, fresh⟩, faultless⟩ := faultless_cons.1 faultless
    rw [List.cons_append, firstFault_cons sound fresh]
    refine ih faultless (fault.mono ?_)
    simp

/-- Resources in a row have no fault, or there is a first one. -/
theorem faultless_or_faultIn (seen : List Ref) (resources : List Resource) :
    Faultless seen resources ∨ ∃ e, FaultIn seen resources e := by
  induction resources generalizing seen with
  | nil => exact .inl faultless_nil
  | cons r rest ih =>
    rcases fault_or_fresh r seen with ⟨sound, fresh⟩ | ⟨e, fault⟩
    · rcases ih (r.ref :: seen) with later | ⟨e, earlier, q, later, rfl, faultless, fault⟩
      · exact .inl (faultless_cons.2 ⟨⟨sound, fresh⟩, later⟩)
      · refine .inr ⟨e, r :: earlier, q, later, rfl,
          faultless_cons.2 ⟨⟨sound, fresh⟩, faultless⟩, fault.mono ?_⟩
        simp
    · exact .inr ⟨e, [], r, rest, rfl, faultless_nil, fault⟩

theorem firstFault_eq_ok_iff :
    firstFault seen resources = .ok () ↔ Faultless seen resources := by
  refine ⟨fun passed => ?_, firstFault_faultless⟩
  rcases faultless_or_faultIn seen resources with faultless | ⟨e, fault⟩
  · exact faultless
  · cases passed.symm.trans (firstFault_faultIn fault)

theorem firstFault_eq_error_iff :
    firstFault seen resources = .error e ↔ FaultIn seen resources e := by
  refine ⟨fun failed => ?_, firstFault_faultIn⟩
  rcases faultless_or_faultIn seen resources with faultless | ⟨other, fault⟩
  · cases failed.symm.trans (firstFault_faultless faultless)
  · cases failed.symm.trans (firstFault_faultIn fault)
    exact fault

/-! ### Plans -/

/-- A plan that is fit for submission. -/
structure Sound (p : Plan) : Prop where
  named : ∀ r ∈ p.resources, r.ref.name ≠ ""
  declared : ∀ s ∈ p.security, ∀ x ∈ s.domain.references, s.Declares x.name
  distinct : (p.resources.map Resource.ref).Nodup

theorem security_mem : Resource.security s ∈ p.resources ↔ s ∈ p.security := by
  simp [resources]

theorem sound_iff : p.Sound ↔ Faultless [] p.resources := by
  constructor
  · rintro ⟨named, declared, distinct⟩
    refine ⟨fun r member => ⟨named r member, ?_⟩, distinct, fun _ _ => List.not_mem_nil⟩
    rintro s rfl
    exact declared s (security_mem.1 member)
  · rintro ⟨sound, distinct, -⟩
    refine ⟨fun r member => (sound r member).named, fun s member => ?_, distinct⟩
    exact (sound _ (security_mem.2 member)).declared s rfl

theorem validate_eq_ok_iff : p.validate = .ok () ↔ p.Sound := by
  rw [sound_iff]
  exact firstFault_eq_ok_iff

variable {σ : Type}

/-- A run of a plan with a fault is over before it does anything. -/
theorem run_invalid (b : Backend σ) (t : Timing) (settings : Settings)
    (invalid : p.validate = .error e) (w : World σ) :
    (Scenario.run b t settings p).run w =
      (.ok { trail := [.built, .failed], failure := some (.invalidPlan e) }, w) := by
  unfold Scenario.run Scenario.perform Scenario.drive
  rw [invalid]
  rfl

/-- Validation accepts just the sound plans, and tells the first fault of any other: that of a
resource, in the order of submission, before which all are sound and different. A run fails with
that fault and leaves the world as it was: it has called neither the store nor the endpoint. -/
theorem validate_exact (b : Backend σ) (t : Timing) (settings : Settings) (p : Plan) (w : World σ) :
    (p.validate = .ok () ↔ p.Sound) ∧
      (∀ e, p.validate = .error e ↔ FaultIn [] p.resources e) ∧
      ∀ e, FaultIn [] p.resources e →
        (Scenario.run b t settings p).run w =
          (.ok { trail := [.built, .failed], failure := some (.invalidPlan e) }, w) := by
  refine ⟨validate_eq_ok_iff, fun e => firstFault_eq_error_iff, fun e fault => ?_⟩
  exact run_invalid b t settings (firstFault_eq_error_iff.2 fault) w

/-- Of two login modules that are not declared, and a later address without a name, the first login
module is told. -/
theorem validate_exact_undeclared :
    let s : Security := { rolloutSecurity "broker" with
      domain := { name := "activemq", references := [⟨"prop-module", "sufficient"⟩,
        ⟨"ldap-module", "required"⟩, ⟨"cert-module", "optional"⟩] } }
    let nameless : Address := { name := "", ns := "broker", addressName := "a", queueName := "q" }
    let p : Plan := { addressRollout "broker" with security := some s, addresses := [nameless] }
    let window : Window := ⟨.ofMillis 10000, .ofMillis 1000, by decide⟩
    let b : Backend MemoryStore := ⟨MemoryStore.store, .offline⟩
    FaultIn [] p.resources (.unknownLoginModule "ldap-module") ∧
      ∃ report, ((Scenario.run b ⟨window, window, window⟩ .live p).run { state := {} }).1 =
        .ok report ∧ report.failure = some (.invalidPlan (.unknownLoginModule "ldap-module")) := by
  intro s nameless p window b
  have fault : FaultIn [] p.resources (.unknownLoginModule "ldap-module") := by
    refine ⟨[.cluster p.cluster], .security s, [.address nameless], rfl, ?_, ?_⟩
    · exact faultless_cons.2 ⟨⟨⟨by decide, nofun⟩, List.not_mem_nil⟩, faultless_nil⟩
    · have place : s.domain.references =
          [⟨"prop-module", "sufficient"⟩] ++ ⟨"ldap-module", "required"⟩ ::
            [⟨"cert-module", "optional"⟩] := rfl
      have named : s.name ≠ "" := by decide
      have declared : s.Declares "prop-module" := ⟨_, List.mem_singleton_self _, rfl⟩
      refine .undeclared named place (by simpa using declared) ?_
      rintro ⟨m, member, same⟩
      rw [List.mem_singleton.1 member] at same
      exact absurd same (by decide)
  have told := (validate_exact b ⟨window, window, window⟩ .live p { state := {} }).2.2 _ fault
  exact ⟨fault, _, congrArg Prod.fst told, rfl⟩

end Plan

end BrokerRollout
