import Mathlib
import BrokerRollout.Command
import BrokerRollout.Proofs.Encoding
import BrokerRollout.Proofs.Reruns

/-!
# The command without a cluster

A command that no layer sends to a cluster runs the address rollout on a new store in memory, which
nothing can fail, whatever the namespace and the timeouts. An interval of zero stops every command
before that. Main statement: `Command.run_inMemory`.
-/

namespace BrokerRollout

/-! ### Windows -/

theorem Window.ofMillis_ok_iff {timeout interval : UInt64} :
    (∃ w, ofMillis timeout interval = .ok w) ↔ interval ≠ 0 := by
  have long : 0 < (Duration.ofMillis interval).nanos ↔ interval ≠ 0 := by
    rw [Nat.pos_iff_ne_zero, Ne, Ne, ← UInt64.toNat_inj, UInt64.toNat_zero]
    simp [Duration.ofMillis, Time.ofMillis, Time.perMilli]
  rw [← long, ofMillis, ofDurations]
  split
  · next positive => exact iff_of_true ⟨_, rfl⟩ positive
  · next zero =>
    refine iff_of_false ?_ zero
    rintro ⟨_, ⟨⟩⟩

namespace TimingConfig

variable {c : TimingConfig}

/-- The intervals of the three waits. -/
def intervals (c : TimingConfig) : List UInt64 :=
  [c.convergenceInterval, c.workerInterval, c.persistenceInterval]

theorem timing_ok_iff : (∃ t, c.timing = .ok t) ↔ 0 ∉ c.intervals := by
  have parts : (∃ t, c.timing = .ok t) ↔ (∃ w, c.convergence = .ok w) ∧ (∃ w, c.worker = .ok w) ∧
      ∃ w, c.persistence = .ok w := by
    rw [timing]
    cases c.convergence <;> cases c.worker <;> cases c.persistence <;>
      simp [bind, Except.bind, pure, Except.pure]
  rw [parts, convergence, worker, persistence]
  simp only [Window.ofMillis_ok_iff, intervals, List.mem_cons, List.not_mem_nil, or_false, not_or,
    ne_comm]

theorem timing_zero (zero : 0 ∈ c.intervals) : c.timing = .error .zeroInterval := by
  cases timed : c.timing with
  | error e => rfl
  | ok t => exact absurd zero (timing_ok_iff.1 ⟨t, timed⟩)

end TimingConfig

namespace Command

variable {σ : Type} {s : Surroundings σ} {a : Arguments} {c file : Config}

/-! ### Layers -/

/-- No layer sends the command to a cluster: the argument is not given, and the variable says
something else or is not set and neither is the switch in the file. -/
structure StaysOffline (s : Surroundings σ) (a : Arguments) (file : Config) : Prop where
  unasked : a.live = false
  unset : match s.environment Settings.liveClusterVariable with
    | some value => value ≠ "true"
    | none => file.scenario.runAgainstLiveCluster = false

theorem StaysOffline.settings_eq (h : StaysOffline s a file) (same : c.scenario = file.scenario) :
    (settings s a c).runAgainstLiveCluster = false := by
  have unset := h.unset
  have switched : (c.scenario.withEnvironment s.environment).runAgainstLiveCluster = false := by
    rw [same, Settings.withEnvironment]
    dsimp only
    cases value : s.environment Settings.liveClusterVariable with
    | some v =>
      rw [value] at unset
      exact beq_false_of_ne unset
    | none =>
      rw [value] at unset
      exact unset
  rw [settings, switched, h.unasked]
  rfl

/-- Arguments override the namespace and the format of the file, and nothing else. -/
theorem configuration_ok (accepted : Config.load (a.config.map s.contentOf) = .ok file) :
    ∃ c, configuration s a = .ok c ∧ c.timing = file.timing ∧ c.scenario = file.scenario := by
  rw [configuration, accepted]
  exact ⟨_, rfl, rfl, rfl⟩

/-! ### Runs -/

theorem run_eq_runWith {arguments : List String}
    (asked : Arguments.parse arguments = .ok (.run a)) :
    run s arguments = runWith s a := by
  rw [run, asked]

/-- An interval of zero stops the command whether or not there is a cluster. -/
theorem runWith_zeroInterval (configured : configuration s a = .ok c)
    (zero : 0 ∈ c.timing.intervals) :
    ∃ shown, runWith s a = pure { shown, ending := .stopped (.window .zeroInterval) } := by
  rw [runWith, configured]
  dsimp only
  rw [TimingConfig.timing_zero zero]
  exact ⟨_, rfl⟩

/-- A command without a cluster is a run on the store in memory. -/
theorem runWith_inMemory {t : Timing} (configured : configuration s a = .ok c)
    (timed : c.timing.timing = .ok t) (offline : (settings s a c).runAgainstLiveCluster = false) :
    ∃ shown, ∀ {w after : World (MemoryStore × σ)} {report : Scenario.Report},
      (Scenario.run (MemoryStore.backend .offline) t (settings s a c) (.addressRollout c.ns)).run w =
        (.ok report, after) →
      (runWith s a).run w = ({ shown, ending := .ran report }, after) := by
  rw [runWith, configured]
  dsimp only
  rw [timed, offline]
  exact ⟨_, fun ran => Sim.run_bind_of ran⟩

end Command

/-- The address rollout passes in a new store, in every namespace, and leaves nothing in it. -/
theorem Scenario.run_addressRollout {σ : Type} (e : Exec.Endpoint σ) (t : Timing) {s : Settings}
    {w : World (MemoryStore × σ)} (ns : String) (new : w.state.1 = {})
    (offline : s.verifiesLiveState = false) :
    let ended := (run (MemoryStore.backend e) t s (.addressRollout ns)).run w
    ended.1 = .ok (passedReport (.addressRollout ns)) ∧ ended.2.state.1.size = 0 := by
  intro ended
  have valid := Plan.addressRollout_valid ns
  have deletable : ∀ q ∈ (Plan.addressRollout ns).resources, q.ref ∉ w.state.1.undeletable :=
    fun _ _ => new ▸ List.not_mem_nil
  obtain ⟨report, reported, settles, kept, -⟩ := run_settles e t valid deletable offline
  rw [new] at settles kept
  refine ⟨?_, Table.size_eq_zero kept⟩
  generalize ((run (MemoryStore.backend e) t s (.addressRollout ns)).run w).2.state.1.rejections =
    rejections at settles
  cases settles with
  | passed => exact reported
  | stopped place clear stuck => cases stuck

namespace Command

variable {σ : Type} {a : Arguments} {file : Config} {arguments : List String}

/-- Without a cluster the command passes in every namespace and with all timeouts: it creates seven
resources in the store, deletes them again, and never opens a session. With an interval of zero it
fails and leaves the world as it is, with a cluster or not. -/
theorem run_inMemory (s : Surroundings σ) (w : World (MemoryStore × σ))
    (asked : Arguments.parse arguments = .ok (.run a))
    (accepted : Config.load (a.config.map s.contentOf) = .ok file) :
    let x := run s arguments
    let ending := (x.run w).1.ending
    (StaysOffline s a file → 0 ∉ file.timing.intervals → w.state.1 = {} →
      ending.code = 0 ∧ ∃ report, ending = .ran report ∧
        report.trail = [.built, .submitted, .cleanedUp] ∧
        report.created.length = 7 ∧ report.deleted.length = 7 ∧ report.verifiedWorkers = [] ∧
        report.cleanupErrors = [] ∧ (x.run w).2.state.2 = w.state.2 ∧
        (x.callsOf w).filterMap Scenario.createdBy = report.created ∧
        (x.callsOf w).filterMap Scenario.deletedBy = report.deleted ∧
        (x.run w).2.state.1.size = 0 ∧
        ∀ c ∈ x.callsOf w, ∀ request, c.ask ≠ .openSession request) ∧
    (0 ∈ file.timing.intervals →
      ending.code = 1 ∧ ending = .stopped (.window .zeroInterval) ∧ (x.run w).2 = w) := by
  intro x ending
  obtain ⟨c, configured, timing, scenario⟩ := configuration_ok accepted
  have same : x = runWith s a := run_eq_runWith asked
  constructor
  · intro stays positive new
    obtain ⟨t, timed⟩ := TimingConfig.timing_ok_iff.2 (timing ▸ positive)
    have offline := stays.settings_eq scenario
    obtain ⟨shown, runs⟩ := runWith_inMemory configured timed offline
    have quiet : (settings s a c).verifiesLiveState = false := by
      rw [Settings.verifiesLiveState, offline, Bool.false_and]
    obtain ⟨passed, empty⟩ := Scenario.run_addressRollout .offline t c.ns new quiet
    obtain ⟨report, reported, comes, -, untouched⟩ :=
      Scenario.run_quiet .offline t (.addressRollout c.ns) w quiet
    obtain rfl := Except.ok.inj (reported.symm.trans passed)
    obtain ⟨_, _, driven, cleaned, made, account⟩ :=
      Scenario.run_account _ t (settings s a c) _ reported
    have books := account.bookkeeping
    rw [← made] at books
    have ran : x.run w = ({ shown, ending := .ran (Scenario.passedReport (.addressRollout c.ns)) },
        ((Scenario.run (MemoryStore.backend .offline) t (settings s a c)
          (.addressRollout c.ns)).run w).2) := by
      rw [same]
      exact runs (Prod.ext reported rfl)
    have calls : x.callsOf w = (Scenario.run (MemoryStore.backend .offline) t (settings s a c)
        (.addressRollout c.ns)).callsOf w := by
      rw [Sim.callsOf, ran, Sim.callsOf]
    have ended : ending = .ran (Scenario.passedReport (.addressRollout c.ns)) :=
      congrArg (fun r => Outcome.ending (Prod.fst r)) ran
    rw [ran, calls]
    exact ⟨ended ▸ rfl, _, ended, rfl, rfl, rfl, rfl, rfl, untouched, books.created.symm,
      books.deleted.symm, empty, comes.unopened⟩
  · intro zero
    obtain ⟨shown, stops⟩ := runWith_zeroInterval configured (timing ▸ zero)
    have result : x.run w = ({ shown, ending := .stopped (.window .zeroInterval) }, w) := by
      rw [same, stops]
      rfl
    have ended : ending = .stopped (.window .zeroInterval) :=
      congrArg (fun r => Outcome.ending (Prod.fst r)) result
    exact ⟨ended ▸ rfl, ended, congrArg Prod.snd result⟩

/-- A namespace that no cluster has is as good as any; a zero interval counts in a live run too. -/
theorem run_inMemory_oddFiles :
    let around (content : String) : Surroundings Unit := {
      contentOf := fun _ => .ok (Text.utf8 content)
      environment := fun _ => some "TRUE"
      cluster := .error (.connectionFailed "no cluster") }
    let odd := around "namespace = \"No such\"\n[timing]\nworker_timeout_ms = 0\n"
    let zero := around "[timing]\npersistence_interval_ms = 0\n"
    let w : World (MemoryStore × Unit) := { state := ({}, ()) }
    ((run odd ["-v", "--config=a.toml", "--deploy-controller"]).run w).1.ending.code = 0 ∧
      ((run zero ["--live", "-cb.toml"]).run w).1.ending = .stopped (.window .zeroInterval) := by
  intro around odd zero w
  have loads {content : String} {file : Config} (h : Config.ofText content = .ok file)
      (path : String) : Config.load (some ((around content).contentOf path)) = .ok file := by
    rw [Config.load, Config.ofBytes, Text.ofUtf8_utf8]
    exact h
  have passes : Arguments.parse ["-v", "--config=a.toml", "--deploy-controller"] =
      .ok (.run { verbose := true, config := some "a.toml", deployController := true }) := rfl
  have stops : Arguments.parse ["--live", "-cb.toml"] =
      .ok (.run { live := true, config := some "b.toml" }) := rfl
  have first : Config.ofText "namespace = \"No such\"\n[timing]\nworker_timeout_ms = 0\n" =
      .ok { ns := "No such", timing := { workerTimeout := 0 } } := by cbv
  have second : Config.ofText "[timing]\npersistence_interval_ms = 0\n" =
      .ok { timing := { persistenceInterval := 0 } } := by cbv
  constructor
  · exact ((run_inMemory odd w passes (loads first _)).1 ⟨rfl, by decide⟩ (by decide) rfl).1
  · exact ((run_inMemory zero w stops (loads second _)).2 (by decide)).2.1

end Command

end BrokerRollout
