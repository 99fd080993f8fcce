import Mathlib
import BrokerRollout.Config
import BrokerRollout.Proofs.Encoding
import BrokerRollout.Proofs.TomlTables

/-!
# Configuration files that give some of the keys

What a part of a configuration takes from a table is settled key by key (`Governs`). A document whose
known keys have values of their kinds therefore always loads, as the default configuration with
these keys overridden and no other (`load_overridden`), however many of its tables it leaves out and
whatever else it holds.
-/

namespace BrokerRollout

/-! ### Keys -/

inductive Settings.Key where
  | runAgainstLiveCluster
  | deployController
  | waitBeforeDependents

inductive TimingConfig.Key where
  | convergenceTimeout
  | convergenceInterval
  | workerTimeout
  | workerInterval
  | persistenceTimeout
  | persistenceInterval

/-- The keys of a configuration file, those of its two tables included. -/
inductive Config.Key where
  | scenario (key : Settings.Key)
  | timing (key : TimingConfig.Key)
  | ns
  | logFormat

namespace Settings.Key

def name : Settings.Key → String
  | .runAgainstLiveCluster => "run_against_live_cluster"
  | .deployController => "deploy_controller"
  | .waitBeforeDependents => "wait_before_dependents"

def of : Settings.Key → Settings → Bool
  | .runAgainstLiveCluster => fun s => s.runAgainstLiveCluster
  | .deployController => fun s => s.deployController
  | .waitBeforeDependents => fun s => s.waitBeforeDependents

def given : Settings.Key → Config.GivenSettings → Option Bool
  | .runAgainstLiveCluster => fun g => g.runAgainstLiveCluster
  | .deployController => fun g => g.deployController
  | .waitBeforeDependents => fun g => g.waitBeforeDependents

/-- A switch that a table does not give is as it is without the table. -/
theorem of_filled (key : Settings.Key) (g : Config.GivenSettings) :
    key.of g.filled = (key.given g).getD (key.of {}) := by
  cases key <;> rfl

theorem given_nothing (key : Settings.Key) : key.given {} = none := by
  cases key <;> rfl

end Settings.Key

theorem Settings.ext_of {s s' : Settings} (same : ∀ key : Settings.Key, key.of s = key.of s') :
    s = s' := by
  obtain ⟨_, _, _⟩ := s
  obtain ⟨_, _, _⟩ := s'
  exact Settings.mk.injEq .. ▸
    ⟨same .runAgainstLiveCluster, same .deployController, same .waitBeforeDependents⟩

namespace TimingConfig.Key

def name : TimingConfig.Key → String
  | .convergenceTimeout => "convergence_timeout_ms"
  | .convergenceInterval => "convergence_interval_ms"
  | .workerTimeout => "worker_timeout_ms"
  | .workerInterval => "worker_interval_ms"
  | .persistenceTimeout => "persistence_timeout_ms"
  | .persistenceInterval => "persistence_interval_ms"

def of : TimingConfig.Key → TimingConfig → UInt64
  | .convergenceTimeout => fun t => t.convergenceTimeout
  | .convergenceInterval => fun t => t.convergenceInterval
  | .workerTimeout => fun t => t.workerTimeout
  | .workerInterval => fun t => t.workerInterval
  | .persistenceTimeout => fun t => t.persistenceTimeout
  | .persistenceInterval => fun t => t.persistenceInterval

def given : TimingConfig.Key → Config.GivenTiming → Option UInt64
  | .convergenceTimeout => fun g => g.convergenceTimeout
  | .convergenceInterval => fun g => g.convergenceInterval
  | .workerTimeout => fun g => g.workerTimeout
  | .workerInterval => fun g => g.workerInterval
  | .persistenceTimeout => fun g => g.persistenceTimeout
  | .persistenceInterval => fun g => g.persistenceInterval

theorem of_filled (key : TimingConfig.Key) (g : Config.GivenTiming) :
    key.of g.filled = (key.given g).getD (key.of {}) := by
  cases key <;> rfl

theorem given_nothing (key : TimingConfig.Key) : key.given {} = none := by
  cases key <;> rfl

end TimingConfig.Key

theorem TimingConfig.ext_of {t t' : TimingConfig}
    (same : ∀ key : TimingConfig.Key, key.of t = key.of t') : t = t' := by
  obtain ⟨_, _, _, _, _, _⟩ := t
  obtain ⟨_, _, _, _, _, _⟩ := t'
  exact TimingConfig.mk.injEq .. ▸
    ⟨same .convergenceTimeout, same .convergenceInterval, same .workerTimeout,
      same .workerInterval, same .persistenceTimeout, same .persistenceInterval⟩

namespace Config

/-! ### Values -/

theorem count_toNat (n : UInt64) : count (.integer n.toNat) = .ok n := by
  have positive : ¬(n.toNat : Int) < 0 := Int.not_lt.2 (Int.natCast_nonneg _)
  rw [count, if_neg positive, Int.toNat_natCast]
  exact congrArg Except.ok UInt64.ofNat_toNat

inductive Kind where
  | switch
  | count
  | text
  | format

namespace Kind

abbrev Setting : Kind → Type
  | .switch => Bool
  | .count => UInt64
  | .text => String
  | .format => LogFormat

/-- A value of a document says that a setting is this one. -/
def Means : (kind : Kind) → Toml.Value → kind.Setting → Prop
  | .switch, v, b => v = .boolean b
  | .count, v, n => v = .integer n.toNat
  | .text, v, s => v = .string s
  | .format, v, f =>
    v = .string f.name ∨ v = .table [(f.name, .array [])] ∨ v = .table [(f.name, .table [])]

def decode : (kind : Kind) → Toml.Value → Except Misfit kind.Setting
  | .switch => Config.switch
  | .count => Config.count
  | .text => Config.text
  | .format => logFormatOf

variable {kind : Kind} {v : Toml.Value} {s s' : kind.Setting}

theorem decode_of_means (means : kind.Means v s) : kind.decode v = .ok s := by
  cases kind with
  | switch =>
    obtain rfl := means
    rfl
  | count =>
    obtain rfl := means
    exact count_toNat s
  | text =>
    obtain rfl := means
    rfl
  | format => rcases means with rfl | rfl | rfl <;> cases s <;> rfl

theorem Means.of_decode (typed : ∃ s', kind.Means v s') (decoded : kind.decode v = .ok s) :
    kind.Means v s := by
  obtain ⟨s', means⟩ := typed
  obtain rfl := Except.ok.inj ((decode_of_means means).symm.trans decoded)
  exact means

theorem Means.unique (means : kind.Means v s) (means' : kind.Means v s') : s' = s :=
  Except.ok.inj ((decode_of_means means').symm.trans (decode_of_means means))

end Kind

/-! ### Documents -/

namespace Key

def kind : Key → Kind
  | .scenario _ => .switch
  | .timing _ => .count
  | .ns => .text
  | .logFormat => .format

def of : (key : Key) → Config → key.kind.Setting
  | .scenario key => fun c => key.of c.scenario
  | .timing key => fun c => key.of c.timing
  | .ns => fun c => c.ns
  | .logFormat => fun c => c.logFormat

/-- A document gives a key a value. -/
def Given (doc : List (String × Toml.Value)) (v : Toml.Value) : Key → Prop
  | .scenario key => ∃ entries, ("scenario", .table entries) ∈ doc ∧ (key.name, v) ∈ entries
  | .timing key => ∃ entries, ("timing", .table entries) ∈ doc ∧ (key.name, v) ∈ entries
  | .ns => ("namespace", v) ∈ doc
  | .logFormat => ("log_format", v) ∈ doc

end Key

/-- The known keys that a document gives have values of their kinds. -/
structure WellTyped (doc : List (String × Toml.Value)) : Prop where
  scenario : ∀ v, ("scenario", v) ∈ doc → ∃ entries, v = .table entries
  timing : ∀ v, ("timing", v) ∈ doc → ∃ entries, v = .table entries
  values : ∀ (key : Key) v, key.Given doc v → ∃ s, key.kind.Means v s

/-- The configuration is the default one, except for the keys that the document gives. -/
structure Overridden (doc : List (String × Toml.Value)) (c : Config) : Prop where
  given : ∀ (key : Key) v, key.Given doc v → key.kind.Means v (key.of c)
  missing : ∀ (key : Key), (∀ v, ¬key.Given doc v) → key.of c = key.of {}

theorem ext_of {c c' : Config} (same : ∀ key : Key, key.of c = key.of c') : c = c' := by
  have scenario : c.scenario = c'.scenario := Settings.ext_of fun key => same (.scenario key)
  have timing : c.timing = c'.timing := TimingConfig.ext_of fun key => same (.timing key)
  obtain ⟨_, _, _, _⟩ := c
  obtain ⟨_, _, _, _⟩ := c'
  exact Config.mk.injEq .. ▸ ⟨scenario, timing, same .ns, same .logFormat⟩

/-- Documents that give a key alike set it alike, whatever else they give. -/
theorem Overridden.agree {doc doc' : List (String × Toml.Value)} {c c' : Config}
    (overridden : Overridden doc c) (overridden' : Overridden doc' c') {key : Key}
    (same : ∀ v, key.Given doc v ↔ key.Given doc' v) : key.of c = key.of c' := by
  by_cases given : ∃ v, key.Given doc v
  · obtain ⟨v, given⟩ := given
    exact (overridden'.given key v ((same v).1 given)).unique (overridden.given key v given)
  · have absent : ∀ v, ¬key.Given doc v := not_exists.1 given
    rw [overridden.missing key absent, overridden'.missing key fun v => mt (same v).2 (absent v)]

/-! ### Fields -/

section Fields

variable {α β γ : Type} {fields : List (Field α)} {name : String}
  {decode : Toml.Value → Except Misfit β} {get : α → Option β}
  {entries : List (String × Toml.Value)} {nothing start final : α}

/-- Whatever the field takes in, `get` reads what it read before. -/
def Keeps (get : α → γ) (f : Field α) : Prop :=
  ∀ a v a', f.2 a v = .ok a' → get a' = get a

theorem map_eq_ok_iff {ε : Type} {x : Except ε α} {f : α → β} {b : β} :
    x.map f = .ok b ↔ ∃ a, x = .ok a ∧ f a = b := by
  constructor
  · intro mapped
    cases x with
    | error => cases mapped
    | ok a => exact ⟨a, rfl, Except.ok.inj mapped⟩
  · rintro ⟨a, rfl, rfl⟩
    rfl

theorem field_takes {put : α → β → α} {v : Toml.Value} (decodes : ∃ b, decode v = .ok b) (a : α) :
    ∃ a', (field name decode put).2 a v = .ok a' := by
  obtain ⟨b, decoded⟩ := decodes
  exact ⟨put a b, map_eq_ok_iff.2 ⟨b, decoded, rfl⟩⟩

theorem keeps_field {get : α → γ} {put : α → β → α} (same : ∀ a b, get (put a b) = get a) :
    Keeps get (field name decode put) := by
  intro a v a' taken
  obtain ⟨b, -, rfl⟩ := map_eq_ok_iff.1 taken
  exact same a b

/-- What `get` reads is put there by the field of this name and by no other. -/
structure Governs (fields : List (Field α)) (name : String)
    (decode : Toml.Value → Except Misfit β) (get : α → Option β) : Prop where
  own : ∃ put, fields.find? (·.1 == name) = some (field name decode put) ∧
    ∀ a b, get (put a b) = some b
  others : ∀ f ∈ fields, f.1 ≠ name → Keeps get f

theorem fromEntries_cons_eq_ok_iff {e : String × Toml.Value} :
    fromEntries fields start (e :: entries) = .ok final ↔
      (fields.find? (·.1 == e.1) = none ∧ fromEntries fields start entries = .ok final) ∨
      ∃ f, fields.find? (·.1 == e.1) = some f ∧
        ∃ next, f.2 start e.2 = .ok next ∧ fromEntries fields next entries = .ok final := by
  obtain ⟨key, v⟩ := e
  rw [fromEntries]
  cases fields.find? (·.1 == key) with
  | none => simp
  | some f =>
    obtain ⟨name, take⟩ := f
    cases took : take start v <;> simp [took]

theorem name_of_find? {key : String} {f : Field α}
    (found : fields.find? (·.1 == key) = some f) : f.1 = key := by
  simpa using List.find?_some found

/-- A table is taken in if its values under the fields' names are. -/
theorem fromEntries_total
    (takes : ∀ f ∈ fields, ∀ v, (f.1, v) ∈ entries → ∀ a, ∃ a', f.2 a v = .ok a') (start : α) :
    ∃ final, fromEntries fields start entries = .ok final := by
  induction entries generalizing start with
  | nil => exact ⟨start, rfl⟩
  | cons e entries ih =>
    have rest := ih fun f member v there => takes f member v (List.mem_cons_of_mem _ there)
    cases found : fields.find? (·.1 == e.1) with
    | none =>
      obtain ⟨final, taken⟩ := rest start
      exact ⟨final, fromEntries_cons_eq_ok_iff.2 (.inl ⟨found, taken⟩)⟩
    | some f =>
      have here : (f.1, e.2) ∈ e :: entries := name_of_find? found ▸ List.mem_cons_self
      obtain ⟨next, took⟩ := takes f (List.mem_of_find?_eq_some found) e.2 here start
      obtain ⟨final, taken⟩ := rest next
      exact ⟨final, fromEntries_cons_eq_ok_iff.2 (.inr ⟨f, found, next, took, taken⟩)⟩

/-- A part is taken in if its table's values under the names of keys are. -/
theorem part_total {κ : Type} {name : κ → String} {title : String} {filled : α → γ}
    (all : ∀ f ∈ fields, ∃ (key : κ) (put : _), f = field (name key) decode put)
    (typed : ∀ key v, (name key, v) ∈ entries → ∃ b, decode v = .ok b) :
    ∃ c, part title fields nothing filled (.table entries) = .ok c := by
  have takes : ∀ f ∈ fields, ∀ v, (f.1, v) ∈ entries → ∀ a, ∃ a', f.2 a v = .ok a' := by
    intro f member v inside
    obtain ⟨key, put, rfl⟩ := all f member
    exact field_takes (typed key v inside)
  obtain ⟨g, taken⟩ := fromEntries_total takes nothing
  exact ⟨filled g, map_eq_ok_iff.2 ⟨g, taken, rfl⟩⟩

namespace Governs

theorem keeps (governs : Governs fields name decode get) (absent : name ∉ entries.map Prod.fst)
    (taken : fromEntries fields start entries = .ok final) : get final = get start := by
  induction entries generalizing start with
  | nil => rw [Except.ok.inj taken]
  | cons e entries ih =>
    rw [List.map_cons, List.mem_cons, not_or] at absent
    obtain ⟨-, rest⟩ | ⟨f, found, next, took, rest⟩ := fromEntries_cons_eq_ok_iff.1 taken
    · exact ih absent.2 rest
    · have other : f.1 ≠ name := fun same => absent.1 (same.symm.trans (name_of_find? found))
      exact (ih absent.2 rest).trans
        (governs.others f (List.mem_of_find?_eq_some found) other _ _ _ took)

theorem takes {v : Toml.Value} (governs : Governs fields name decode get)
    (keys : (entries.map Prod.fst).Nodup) (there : (name, v) ∈ entries)
    (taken : fromEntries fields start entries = .ok final) :
    ∃ b, decode v = .ok b ∧ get final = some b := by
  induction entries generalizing start with
  | nil => cases there
  | cons e entries ih =>
    rw [List.map_cons, List.nodup_cons] at keys
    rcases List.mem_cons.1 there with rfl | later
    · obtain ⟨put, own, set⟩ := governs.own
      obtain ⟨unknown, -⟩ | ⟨f, found, next, took, rest⟩ := fromEntries_cons_eq_ok_iff.1 taken
      · rw [own] at unknown
        cases unknown
      · obtain rfl := Option.some.inj (own.symm.trans found)
        obtain ⟨b, decoded, rfl⟩ := map_eq_ok_iff.1 took
        -- The keys are distinct, so what is put here is never put again.
        exact ⟨b, decoded, (governs.keeps keys.1 rest).trans (set start b)⟩
    · obtain ⟨-, rest⟩ | ⟨f, found, next, took, rest⟩ := fromEntries_cons_eq_ok_iff.1 taken
      · exact ih keys.2 later rest
      · exact ih keys.2 later rest

variable {filled : α → γ} {of : γ → β} {default : β} {c : γ}

/-- A setting of a filled part is what the table gives. -/
theorem given (governs : Governs fields name decode get)
    (fills : ∀ g, of (filled g) = (get g).getD default) {v : Toml.Value}
    (keys : (entries.map Prod.fst).Nodup) (there : (name, v) ∈ entries)
    (loaded : (fromEntries fields nothing entries).map filled = .ok c) :
    decode v = .ok (of c) := by
  obtain ⟨g, taken, rfl⟩ := map_eq_ok_iff.1 loaded
  obtain ⟨b, decoded, set⟩ := governs.takes keys there taken
  rw [fills, set]
  exact decoded

/-- A setting of a filled part is its default where the table does not give it. -/
theorem missing (governs : Governs fields name decode get)
    (fills : ∀ g, of (filled g) = (get g).getD default) (unset : get nothing = none)
    (absent : ∀ v, (name, v) ∉ entries)
    (loaded : (fromEntries fields nothing entries).map filled = .ok c) : of c = default := by
  obtain ⟨g, taken, rfl⟩ := map_eq_ok_iff.1 loaded
  have nowhere : name ∉ entries.map Prod.fst := by
    intro member
    obtain ⟨e, there, rfl⟩ := List.mem_map.1 member
    exact absent e.2 there
  rw [fills, governs.keeps nowhere taken, unset]
  rfl

end Governs

end Fields

/-! ### The known fields -/

theorem governs_switch (key : Settings.Key) :
    Governs scenarioFields key.name switch key.given := by
  cases key
  all_goals
    refine ⟨⟨_, rfl, fun _ _ => rfl⟩, ?_⟩
    intro f member other
    simp only [scenarioFields, List.mem_cons, List.not_mem_nil, or_false] at member
    rcases member with rfl | rfl | rfl
    all_goals first | exact absurd rfl other | exact keeps_field fun _ _ => rfl

theorem governs_count (key : TimingConfig.Key) :
    Governs timingFields key.name count key.given := by
  cases key
  all_goals
    refine ⟨⟨_, rfl, fun _ _ => rfl⟩, ?_⟩
    intro f member other
    simp only [timingFields, List.mem_cons, List.not_mem_nil, or_false] at member
    rcases member with rfl | rfl | rfl | rfl | rfl | rfl
    all_goals first | exact absurd rfl other | exact keeps_field fun _ _ => rfl

theorem scenarioFields_all (f : Field GivenSettings) (member : f ∈ scenarioFields) :
    ∃ (key : Settings.Key) (put : _), f = field key.name switch put := by
  simp only [scenarioFields, List.mem_cons, List.not_mem_nil, or_false] at member
  rcases member with rfl | rfl | rfl
  · exact ⟨.runAgainstLiveCluster, _, rfl⟩
  · exact ⟨.deployController, _, rfl⟩
  · exact ⟨.waitBeforeDependents, _, rfl⟩

theorem timingFields_all (f : Field GivenTiming) (member : f ∈ timingFields) :
    ∃ (key : TimingConfig.Key) (put : _), f = field key.name count put := by
  simp only [timingFields, List.mem_cons, List.not_mem_nil, or_false] at member
  rcases member with rfl | rfl | rfl | rfl | rfl | rfl
  · exact ⟨.convergenceTimeout, _, rfl⟩
  · exact ⟨.convergenceInterval, _, rfl⟩
  · exact ⟨.workerTimeout, _, rfl⟩
  · exact ⟨.workerInterval, _, rfl⟩
  · exact ⟨.persistenceTimeout, _, rfl⟩
  · exact ⟨.persistenceInterval, _, rfl⟩

theorem governs_part :
    Governs fields "scenario" (part "ScenarioSettings" scenarioFields {} GivenSettings.filled)
        Given.scenario ∧
      Governs fields "timing" (part "TimingConfig" timingFields {} GivenTiming.filled)
        Given.timing ∧
      Governs fields "namespace" text Given.ns ∧
      Governs fields "log_format" logFormatOf Given.logFormat := by
  refine ⟨?_, ?_, ?_, ?_⟩
  all_goals
    refine ⟨⟨_, rfl, fun _ _ => rfl⟩, ?_⟩
    intro f member other
    simp only [fields, List.mem_cons, List.not_mem_nil, or_false] at member
    rcases member with rfl | rfl | rfl | rfl
    all_goals first | exact absurd rfl other | exact keeps_field fun _ _ => rfl

/-! ### Whole documents -/

section Documents

variable {doc entries : List (String × Toml.Value)} {c : Config}

theorem WellTyped.scenario_total (typed : WellTyped doc)
    (there : ("scenario", .table entries) ∈ doc) :
    ∃ s, part "ScenarioSettings" scenarioFields {} GivenSettings.filled (.table entries) =
      .ok s := by
  refine part_total scenarioFields_all fun key v inside => ?_
  obtain ⟨b, means⟩ := typed.values (.scenario key) v ⟨entries, there, inside⟩
  exact ⟨b, Kind.decode_of_means means⟩

theorem WellTyped.timing_total (typed : WellTyped doc)
    (there : ("timing", .table entries) ∈ doc) :
    ∃ t, part "TimingConfig" timingFields {} GivenTiming.filled (.table entries) = .ok t := by
  refine part_total timingFields_all fun key v inside => ?_
  obtain ⟨n, means⟩ := typed.values (.timing key) v ⟨entries, there, inside⟩
  exact ⟨n, Kind.decode_of_means means⟩

theorem WellTyped.total (typed : WellTyped doc) : ∃ c, ofTable doc = .ok c := by
  have takes : ∀ f ∈ fields, ∀ v, (f.1, v) ∈ doc → ∀ a, ∃ a', f.2 a v = .ok a' := by
    intro f member v there
    simp only [fields, List.mem_cons, List.not_mem_nil, or_false] at member
    rcases member with rfl | rfl | rfl | rfl
    · obtain ⟨entries, rfl⟩ := typed.scenario v there
      exact field_takes (typed.scenario_total there)
    · obtain ⟨entries, rfl⟩ := typed.timing v there
      exact field_takes (typed.timing_total there)
    · obtain ⟨s, means⟩ := typed.values .ns v there
      exact field_takes ⟨s, Kind.decode_of_means means⟩
    · obtain ⟨f, means⟩ := typed.values .logFormat v there
      exact field_takes ⟨f, Kind.decode_of_means means⟩
  obtain ⟨g, taken⟩ := fromEntries_total takes {}
  exact ⟨g.filled, map_eq_ok_iff.2 ⟨g, taken, rfl⟩⟩

theorem WellTyped.overridden (typed : WellTyped doc) (distinct : (Toml.Value.table doc).Distinct)
    (loaded : ofTable doc = .ok c) : Overridden doc c := by
  obtain ⟨scenario, timing, ns, logFormat⟩ := governs_part
  obtain ⟨keys, each⟩ := distinct.of_table
  have inner {name entries} (there : (name, Toml.Value.table entries) ∈ doc) :
      (entries.map Prod.fst).Nodup :=
    (each _ there).of_table.1
  have fillsScenario (g : Given) : g.filled.scenario = g.scenario.getD {} := rfl
  have fillsTiming (g : Given) : g.filled.timing = g.timing.getD {} := rfl
  constructor
  case given =>
    intro key v given
    refine .of_decode (typed.values key v given) ?_
    cases key with
    | scenario key =>
      obtain ⟨entries, there, inside⟩ := given
      have decoded := scenario.given fillsScenario keys there loaded
      exact (governs_switch key).given key.of_filled (inner there) inside decoded
    | timing key =>
      obtain ⟨entries, there, inside⟩ := given
      have decoded := timing.given fillsTiming keys there loaded
      exact (governs_count key).given key.of_filled (inner there) inside decoded
    | ns => exact ns.given (fun _ => rfl) keys given loaded
    | logFormat => exact logFormat.given (fun _ => rfl) keys given loaded
  case missing =>
    intro key absent
    cases key with
    | scenario key =>
      -- The default is the field's own where the table is there, and the whole part's where not.
      by_cases there : ∃ v, ("scenario", v) ∈ doc
      · obtain ⟨v, there⟩ := there
        obtain ⟨entries, rfl⟩ := typed.scenario v there
        have decoded := scenario.given fillsScenario keys there loaded
        show key.of c.scenario = key.of {}
        exact (governs_switch key).missing key.of_filled key.given_nothing
          (fun v inside => absent v ⟨entries, there, inside⟩) decoded
      · have whole := scenario.missing fillsScenario rfl (not_exists.1 there) loaded
        exact congrArg key.of whole
    | timing key =>
      by_cases there : ∃ v, ("timing", v) ∈ doc
      · obtain ⟨v, there⟩ := there
        obtain ⟨entries, rfl⟩ := typed.timing v there
        have decoded := timing.given fillsTiming keys there loaded
        show key.of c.timing = key.of {}
        exact (governs_count key).missing key.of_filled key.given_nothing
          (fun v inside => absent v ⟨entries, there, inside⟩) decoded
      · have whole := timing.missing fillsTiming rfl (not_exists.1 there) loaded
        exact congrArg key.of whole
    | ns => exact ns.missing (fun _ => rfl) rfl absent loaded
    | logFormat => exact logFormat.missing (fun _ => rfl) rfl absent loaded

theorem Overridden.unique {c' : Config} (overridden : Overridden doc c)
    (overridden' : Overridden doc c') : c' = c :=
  ext_of fun _ => overridden'.agree overridden fun _ => Iff.rfl

theorem load_utf8 {text : String} (parsed : Toml.parse? text = some doc)
    (loaded : ofTable doc = .ok c) : load (some (.ok (Text.utf8 text))) = .ok c := by
  rw [load, ofBytes, Text.ofUtf8_utf8]
  dsimp only
  rw [ofText, parsed]
  dsimp only
  rw [loaded]
  rfl

theorem load_empty : load (some (.ok [])) = load none := by
  cbv

/-- Where the known keys of a document, as many as it gives, have values of their kinds, it loads as
the default configuration with these keys overridden and no other. Another such document that gives
a key alike sets it alike, and an empty file is as good as none. -/
theorem load_overridden {text : String} (parsed : Toml.parse? text = some doc)
    (typed : WellTyped doc) :
    ∃ c, load (some (.ok (Text.utf8 text))) = .ok c ∧
      (∀ c', Overridden doc c' ↔ c' = c) ∧
      (∀ text' doc' c', Toml.parse? text' = some doc' → WellTyped doc' →
        load (some (.ok (Text.utf8 text'))) = .ok c' →
        ∀ key : Key, (∀ v, key.Given doc v ↔ key.Given doc' v) → key.of c = key.of c') ∧
      load (some (.ok [])) = load none := by
  obtain ⟨c, loaded⟩ := typed.total
  have overridden := typed.overridden (Toml.parse?_distinct parsed) loaded
  refine ⟨c, load_utf8 parsed loaded, ?_, ?_, load_empty⟩
  · intro c'
    constructor
    · exact overridden.unique
    · rintro rfl
      exact overridden
  · intro text' doc' c' parsed' typed' loads key same
    obtain ⟨c'', loaded'⟩ := typed'.total
    obtain rfl := Except.ok.inj (loads.symm.trans (load_utf8 parsed' loaded'))
    have overridden' := typed'.overridden (Toml.parse?_distinct parsed') loaded'
    exact overridden.agree overridden' same

theorem load_overridden_fewKeys :
    let text := "owner = 1\nnamespace = \"sandbox\"\n[timing]\nworker_timeout_ms = 5\n"
    let doc := [("owner", .integer 1), ("namespace", .string "sandbox"),
      ("timing", .table [("worker_timeout_ms", .integer 5)])]
    Toml.parse? text = some doc ∧ WellTyped doc ∧
      load (some (.ok (Text.utf8 text))) =
        .ok { ns := "sandbox", timing := { workerTimeout := 5 } } := by
  intro text doc
  let expected : Config := { ns := "sandbox", timing := { workerTimeout := 5 } }
  have parsed : Toml.parse? text = some doc := by
    dsimp only [text, doc]
    cbv
  have timeout : (Key.timing .workerTimeout).Given doc (.integer 5) :=
    ⟨_, .tail _ (.tail _ (.head _)), .head _⟩
  have gives : ∀ (key : Key) v, key.Given doc v → key.kind.Means v (key.of expected) := by
    intro key v given
    cases key with
    | scenario key => simp [Key.Given, doc] at given
    | timing key =>
      obtain ⟨entries, there, inside⟩ := given
      simp only [doc, List.mem_cons, Prod.mk.injEq, String.reduceEq, false_and, true_and,
        Toml.Value.table.injEq, List.not_mem_nil, or_false, false_or] at there
      subst there
      obtain ⟨named, rfl⟩ := Prod.mk.inj (List.mem_singleton.1 inside)
      cases key with
      | workerTimeout => rfl
      | _ => exact absurd named (by decide)
    | ns =>
      have same : v = .string "sandbox" := by simpa [Key.Given, doc] using given
      exact same
    | logFormat => simp [Key.Given, doc] at given
  have typed : WellTyped doc := by
    constructor
    case scenario => simp [doc]
    case timing => simp [doc]
    case values => exact fun key v given => ⟨_, gives key v given⟩
  have overridden : Overridden doc expected := by
    refine ⟨gives, ?_⟩
    intro key absent
    cases key with
    | scenario => rfl
    | timing key =>
      cases key with
      | workerTimeout => exact absurd timeout (absent _)
      | _ => rfl
    | ns => exact absurd (.tail _ (.head _)) (absent (.string "sandbox"))
    | logFormat => rfl
  obtain ⟨c, loaded, only, -⟩ := load_overridden parsed typed
  obtain rfl := (only expected).1 overridden
  exact ⟨parsed, typed, loaded⟩

end Documents

end Config

end BrokerRollout
