import BrokerRollout.Proofs.Immediate

/-!
# Runs without a live state to verify

Such a run on a store in memory submits the plan and cleans up. Whether it gets through is settled
by the plan and by what is in the way of its resources, and by nothing else: all endpoints, timings
and settings lead to the same report and the same calls. Main statement: `run_offline`.
-/

namespace BrokerRollout.Scenario

variable {τ : Type} {m m' mid : MemoryStore} {t : Timing} {s : Settings} {p : Plan} {r final : Report}
  {outcome : Except Failure Unit} {calls cleaned : List Call}

/-! ### What is asked for resources -/

theorem reads_resources (p : Plan) :
    (p.resources.flatMap resourceAsks).filterMap Ask.read? = p.addresses.map Address.ref := by
  have security : (p.security.toList.map Resource.security).flatMap
      (fun q => (resourceAsks q).filterMap Ask.read?) = [] := by
    simp [List.flatMap_map, resourceAsks, Ask.read?]
  have addresses : (p.addresses.map Resource.address).flatMap
      (fun q => (resourceAsks q).filterMap Ask.read?) = p.addresses.map Address.ref := by
    rw [List.flatMap_map, List.map_eq_flatMap]
    rfl
  rw [List.filterMap_flatMap, Plan.resources, List.flatMap_append, List.flatMap_cons, security,
    addresses]
  rfl

theorem requests_resources (qs : List Resource) :
    (qs.flatMap resourceAsks).filterMap Ask.request? = [] := by
  rw [List.filterMap_flatMap, List.flatMap_eq_nil_iff]
  intro q _
  cases q <;> rfl

/-! ### The steps of the run -/

/-- How the steps of a run without a live state end: with this report and after asking this. -/
inductive OfflineDrive (p : Plan) (m : MemoryStore) :
    Except Failure Unit → Report → List Ask → Prop where
  | invalid {e : SpecError} (fault : p.validate = .error e) :
      OfflineDrive p m (.error (.invalidPlan e)) {} []
  | stopped {before after : List Resource} {q : Resource} {error : Store.Error}
      (sound : p.validate = .ok ()) (place : p.resources = before ++ q :: after)
      (clear : ∀ earlier ∈ before, m.obstacle? earlier.ref = none)
      (stuck : m.obstacle? q.ref = some error) :
      OfflineDrive p m (.error (.submission q.ref error)) { created := before.map Resource.ref }
        (before.flatMap resourceAsks ++ [.create q])
  | submitted (sound : p.validate = .ok ()) (clear : ∀ q ∈ p.resources, m.obstacle? q.ref = none) :
      OfflineDrive p m (.ok ())
        { trail := [.built, .submitted], created := p.resources.map Resource.ref }
        (p.resources.flatMap resourceAsks)

/-- The first resource that has something in its way, if there is one. -/
theorem first_obstacle (m : MemoryStore) (qs : List Resource) :
    (∀ q ∈ qs, m.obstacle? q.ref = none) ∨ ∃ before q after error, qs = before ++ q :: after ∧
      (∀ earlier ∈ before, m.obstacle? earlier.ref = none) ∧ m.obstacle? q.ref = some error := by
  induction qs with
  | nil => exact .inl (by simp)
  | cons q qs ih =>
    cases found : m.obstacle? q.ref with
    | some error => exact .inr ⟨[], q, qs, error, rfl, by simp, found⟩
    | none =>
      rcases ih with clear | ⟨before, other, after, error, rfl, clear, stuck⟩
      · exact .inl (List.forall_mem_cons.2 ⟨found, clear⟩)
      · refine .inr ⟨q :: before, other, after, error, rfl, ?_, stuck⟩
        exact List.forall_mem_cons.2 ⟨found, clear⟩

theorem drive_offline (p : Plan) (m : MemoryStore) : ∃ outcome r calls mid,
    OfflineDrive p m outcome r (calls.map Call.ask) ∧
      ∀ (τ : Type) (e : Exec.Endpoint τ) (t : Timing) (s : Settings), s.verifiesLiveState = false →
        Sim.AtOnce ((drive (MemoryStore.backend e) t s p).run {}) m (.ok outcome, r) calls mid := by
  cases validated : p.validate with
  | error e =>
    refine ⟨_, {}, [], m, .invalid validated, fun τ e t s _ => ?_⟩
    rw [drive, validated]
    exact .pure _ m
  | ok _ =>
    have distinct := Plan.nodup_refs validated
    rcases first_obstacle m p.resources with clear | ⟨before, q, after, error, place, clear, stuck⟩
    · obtain ⟨calls, mid, submits, asks, -⟩ := submit_all distinct clear {}
      have way := OfflineDrive.submitted validated clear
      rw [← asks] at way
      refine ⟨_, _, calls, mid, way, fun τ e t s offline => ?_⟩
      rw [drive, validated, steps_offline offline]
      have enters := submits.append (enter_immediate .submitted mid _)
      rw [List.append_nil] at enters
      exact enters τ e t
    · rw [place] at distinct
      obtain ⟨calls, mid, submits, asks⟩ := submit_until distinct clear stuck {} [.enter .submitted]
      have way := OfflineDrive.stopped validated place clear stuck
      rw [← asks] at way
      refine ⟨_, _, calls, mid, way, fun τ e t s offline => ?_⟩
      rw [drive, validated, steps_offline offline, place]
      exact submits τ e t

theorem OfflineDrive.unfailed {asks : List Ask} (h : OfflineDrive p m outcome r asks) :
    r.failure = none := by
  cases h <;> rfl

theorem offline_atOnce (p : Plan) (m : MemoryStore) : ∃ outcome r calls cleaned m',
    OfflineDrive p m outcome r (calls.map Call.ask) ∧
      cleaned.map Call.ask = r.created.reverse.map .delete ∧
      ∀ (τ : Type) (e : Exec.Endpoint τ) (t : Timing) (s : Settings), s.verifiesLiveState = false →
        Sim.AtOnce (run (MemoryStore.backend e) t s p) m
          (.ok ((r.conclude outcome).recordDeletions cleaned)) (calls ++ cleaned) m' := by
  obtain ⟨outcome, r, calls, mid, way, drives⟩ := drive_offline p m
  obtain ⟨cleaned, m', asks, finishes⟩ := finish_atOnce outcome mid way.unfailed
  refine ⟨outcome, r, calls, cleaned, m', way, asks, fun τ e t s offline => ?_⟩
  rw [run_eq]
  exact (drives τ e t s offline).bind ((finishes τ e).bind_pure rfl)

/-! ### Whole runs -/

/-- What such a run comes to with a store in memory that was `before`. -/
structure Offline (p : Plan) (before : MemoryStore) (report : Report) (calls : List Call) : Prop where
  passed : report.passed = true ↔ p.validate = .ok () ∧
    ∀ q ∈ p.resources, before.contains q.ref = false ∧ before.rejections.get? q.ref = none
  created : report.passed = true → report.created = p.resources.map Resource.ref
  trail : report.passed = true → report.trail = [.built, .submitted, .cleanedUp]
  reads : report.passed = true → calls.filterMap readBy = p.addresses.map Address.ref
  /-- The plan is invalid, or a resource is the first to have something in its way. -/
  failed : ∀ failure, report.failure = some failure →
    (∃ e, p.validate = .error e ∧ failure = .invalidPlan e) ∨
      p.validate = .ok () ∧ ∃ done q rest error, p.resources = done ++ q :: rest ∧
        (∀ earlier ∈ done, before.obstacle? earlier.ref = none) ∧
        before.obstacle? q.ref = some error ∧ failure = .submission q.ref error
  unopened : ∀ c ∈ calls, ∀ request, c.ask ≠ .openSession request

namespace OfflineDrive

variable {asks : List Ask}

theorem ok_iff (h : OfflineDrive p m outcome r asks) :
    outcome = .ok () ↔ p.validate = .ok () ∧ ∀ q ∈ p.resources, m.obstacle? q.ref = none := by
  cases h with
  | invalid fault => simp [fault]
  | stopped sound place clear stuck =>
    refine ⟨nofun, fun ⟨_, all⟩ => ?_⟩
    have free := all _ (place ▸ List.mem_append_right _ List.mem_cons_self)
    cases free.symm.trans stuck
  | submitted sound clear => exact iff_of_true rfl ⟨sound, clear⟩

theorem submitted_of_ok (h : OfflineDrive p m (.ok ()) r asks) :
    r = { trail := [.built, .submitted], created := p.resources.map Resource.ref } ∧
      asks = p.resources.flatMap resourceAsks := by
  cases h with
  | submitted => exact ⟨rfl, rfl⟩

theorem failed {failure : Failure} (h : OfflineDrive p m (.error failure) r asks) :
    (∃ e, p.validate = .error e ∧ failure = .invalidPlan e) ∨
      p.validate = .ok () ∧ ∃ done q rest error, p.resources = done ++ q :: rest ∧
        (∀ earlier ∈ done, m.obstacle? earlier.ref = none) ∧
        m.obstacle? q.ref = some error ∧ failure = .submission q.ref error := by
  cases h with
  | invalid fault => exact .inl ⟨_, fault, rfl⟩
  | stopped sound place clear stuck =>
    exact .inr ⟨sound, _, _, _, _, place, clear, stuck, rfl⟩

theorem requests (h : OfflineDrive p m outcome r asks) : asks.filterMap Ask.request? = [] := by
  cases h with
  | invalid => rfl
  | stopped =>
    rw [List.filterMap_append, requests_resources]
    rfl
  | submitted => exact requests_resources _

end OfflineDrive

theorem offline_of_drive (way : OfflineDrive p m outcome r (calls.map Call.ask))
    (cleans : cleaned.map Call.ask = r.created.reverse.map .delete) :
    Offline p m ((r.conclude outcome).recordDeletions cleaned) (calls ++ cleaned) where
  passed := by
    rw [conclude_passed, way.ok_iff]
    simp only [MemoryStore.obstacle?_eq_none, and_comm]
  created passed := by
    obtain rfl := (conclude_passed ..).1 passed
    obtain ⟨rfl, -⟩ := way.submitted_of_ok
    rfl
  trail passed := by
    obtain rfl := (conclude_passed ..).1 passed
    obtain ⟨rfl, -⟩ := way.submitted_of_ok
    rfl
  reads passed := by
    obtain rfl := (conclude_passed ..).1 passed
    have driven : calls.filterMap readBy = (calls.map Call.ask).filterMap Ask.read? :=
      (List.filterMap_map ..).symm
    have deleted : cleaned.filterMap readBy = (cleaned.map Call.ask).filterMap Ask.read? :=
      (List.filterMap_map ..).symm
    rw [List.filterMap_append, driven, deleted, cleans, way.submitted_of_ok.2, reads_resources,
      filterMap_map_none fun _ => rfl, List.append_nil]
  failed failure failed := by
    rw [conclude_failure] at failed
    rcases outcome with other | ⟨⟩ <;> cases failed
    exact way.failed
  unopened c member request asks := by
    have asked : request ∈ ((calls ++ cleaned).map Call.ask).filterMap Ask.request? :=
      List.mem_filterMap.2 ⟨_, List.mem_map_of_mem member, by rw [asks]; rfl⟩
    rw [List.map_append, List.filterMap_append, way.requests, cleans,
      filterMap_map_none fun _ => rfl] at asked
    cases asked

/-- A run without a live state to verify has a report, and opens no session. -/
theorem run_quiet (e : Exec.Endpoint τ) (t : Timing) (p : Plan) (w : World (MemoryStore × τ))
    (offline : s.verifiesLiveState = false) :
    let x := run (MemoryStore.backend e) t s p
    ∃ report, (x.run w).1 = .ok report ∧ Offline p w.state.1 report (x.callsOf w) ∧
      (x.run w).2.now = w.now ∧ (x.run w).2.state.2 = w.state.2 := by
  intro x
  obtain ⟨outcome, r, calls, cleaned, m', way, cleans, ran⟩ := offline_atOnce p w.state.1
  have here : x.AtOnce w.state.1 _ _ m' := ran τ e t s offline
  refine ⟨_, congrArg Prod.fst (here w rfl), ?_, ?_, ?_⟩
  · rw [here.callsOf rfl]
    exact offline_of_drive way cleans
  · rw [here w rfl]
    rfl
  · rw [here w rfl]
    rfl

/-- A run without a live state to verify passes just if the plan is valid and nothing is in the way
of its resources. It takes no time, and nothing else makes a difference to it. -/
theorem run_offline (e : Exec.Endpoint τ) (t : Timing) (s : Settings) (p : Plan)
    (w : World (MemoryStore × τ)) (offline : s.verifiesLiveState = false) :
    let x := run (MemoryStore.backend e) t s p
    ∃ report, (x.run w).1 = .ok report ∧ Offline p w.state.1 report (x.callsOf w) ∧
      (x.run w).2.now = w.now ∧ (x.run w).2.state.2 = w.state.2 ∧
      (x.run w).2.state.1.reads = w.state.1.reads + ((x.callsOf w).filterMap readBy).length ∧
      ∀ {υ : Type} (e' : Exec.Endpoint υ) (t' : Timing) (s' : Settings)
        (v : World (MemoryStore × υ)), s'.verifiesLiveState = false → v.state.1 = w.state.1 →
        let y := run (MemoryStore.backend e') t' s' p
        (y.run v).1 = .ok report ∧ y.callsOf v = x.callsOf w := by
  intro x
  obtain ⟨report, reported, comes, now, untouched⟩ := run_quiet e t p w offline
  obtain ⟨_, _, _, _, _, -, -, ran⟩ := offline_atOnce p w.state.1
  have here := ran τ e t s offline
  have past := (run_acts (MemoryStore.backend e) t s p).history w
  have counts := (MemoryStore.replays_of_history past).counted MemoryStore.reads fun _ _ =>
    fun here => here.reads
  refine ⟨report, reported, comes, now, untouched, counts, ?_⟩
  intro υ e' t' s' v offline' memory y
  have there := ran υ e' t' s' offline'
  constructor
  · rw [← reported, here w rfl, there v memory]
  · rw [here.callsOf rfl, there.callsOf memory]

theorem run_offline_rollout :
    let p := Plan.addressRollout "broker"
    let x := run (MemoryStore.backend (τ := Unit) .offline) .brief {} p
    ({} : Settings).verifiesLiveState = false ∧
      ∃ report, (x.run { state := ({}, ()) }).1 = .ok report ∧ report.passed = true ∧
        report.created = p.resources.map Resource.ref ∧
        report.trail = [.built, .submitted, .cleanedUp] := by
  intro p x
  have offline : ({} : Settings).verifiesLiveState = false := rfl
  obtain ⟨report, reported, comes, -⟩ :=
    run_offline (τ := Unit) .offline .brief {} p { state := ({}, ()) } offline
  have passed : report.passed = true := comes.passed.2 ⟨rfl, fun _ _ => ⟨rfl, rfl⟩⟩
  exact ⟨offline, report, reported, passed, comes.created passed, comes.trail passed⟩

end BrokerRollout.Scenario
