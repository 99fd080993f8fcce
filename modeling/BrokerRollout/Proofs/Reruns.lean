import BrokerRollout.Proofs.NetEffect
import BrokerRollout.Proofs.Offline

/-!
# Runs one after the other

Where no deletion fails, a run without a live state to verify leaves the store in memory as it was,
but for the one rejection that it may have run into (`run_settles`). So each further run of the
same plan gets past the rejections of those before it. Main statement: `run_again`.
-/

namespace BrokerRollout

variable {τ : Type} {m m' : MemoryStore}

namespace MemoryStore

/-- Deletions that the store does not fail all succeed. -/
theorem Replays.deletes {refs : List Ref} {calls : List Call} (h : m.Replays calls m')
    (asks : calls.map Call.ask = refs.map .delete) (deletable : ∀ ref ∈ refs, ref ∉ m.undeletable) :
    calls = refs.map fun ref => .delete ref (.ok ()) := by
  induction h generalizing refs with
  | done =>
    obtain rfl := List.map_eq_nil_iff.1 asks.symm
    rfl
  | next here later ih =>
    obtain ⟨ref, rest, rfl, first, others⟩ := List.map_eq_cons_iff.1 asks.symm
    obtain ⟨free, deletable⟩ := List.forall_mem_cons.1 deletable
    rw [← here.undeletable] at deletable
    rw [ih others.symm deletable]
    cases here with
    | deleted =>
      cases first
      rfl
    | undeleted _ stuck =>
      cases first
      exact absurd stuck free
    | created | rejected | collided | missed | found | contacted => cases first

end MemoryStore

namespace Scenario

variable {p : Plan} {s : Settings} {t : Timing}

/-! ### One run -/

/-- The report of a run that got through and left nothing behind. -/
def passedReport (p : Plan) : Report where
  trail := [.built, .submitted, .cleanedUp]
  created := p.resources.map Resource.ref
  deleted := (p.resources.map Resource.ref).reverse

/-- The report of a run that stopped at a resource after `done`, and left nothing behind. -/
def stoppedReport (done : List Resource) (ref : Ref) (error : Store.Error) : Report where
  trail := [.built, .failed]
  created := done.map Resource.ref
  deleted := (done.map Resource.ref).reverse
  failure := some (.submission ref error)

/-- How a run of a plan ends in memory `m`, and which rejections are left after it. -/
inductive Settles (p : Plan) (m : MemoryStore) : Report → Table Ref String → Prop where
  | passed (clear : ∀ q ∈ p.resources, m.obstacle? q.ref = none) :
      Settles p m (passedReport p) m.rejections
  | stopped {done rest : List Resource} {q : Resource} {error : Store.Error}
      (place : p.resources = done ++ q :: rest)
      (clear : ∀ earlier ∈ done, m.obstacle? earlier.ref = none)
      (stuck : m.obstacle? q.ref = some error) :
      Settles p m (stoppedReport done q.ref error)
        ((Failure.submission q.ref error).rejected?.toList.foldl Table.erase m.rejections)

theorem recordDeletions_all (r : Report) (refs : List Ref) :
    r.recordDeletions (refs.map fun ref => .delete ref (.ok ())) =
      { r with deleted := r.deleted ++ refs } := by
  have deleted := filterMap_map_some (g := deletedBy) (h := fun ref => ref)
    (fun ref : Ref => (rfl : deletedBy (.delete ref (.ok ())) = some ref)) refs
  have none := filterMap_map_none (g := undeletedBy)
    (fun ref : Ref => (rfl : undeletedBy (.delete ref (.ok ())) = none)) refs
  rw [Report.recordDeletions, deleted, none, List.map_id', List.append_nil]

theorem OfflineDrive.created_planned {outcome : Except Failure Unit} {r : Report} {asks : List Ask}
    (h : OfflineDrive p m outcome r asks) :
    ∀ ref ∈ r.created, ∃ q ∈ p.resources, q.ref = ref := by
  intro ref member
  cases h with
  | invalid => cases member
  | stopped _ place =>
    obtain ⟨q, early, rfl⟩ := List.mem_map.1 member
    exact ⟨q, place ▸ List.mem_append_left _ early, rfl⟩
  | submitted => exact List.mem_map.1 member

/-- A run whose deletions do not fail leaves all entries as they were. -/
theorem run_settles (e : Exec.Endpoint τ) (t : Timing) {w : World (MemoryStore × τ)}
    (valid : p.validate = .ok ()) (deletable : ∀ q ∈ p.resources, q.ref ∉ w.state.1.undeletable)
    (offline : s.verifiesLiveState = false) :
    let result := (run (MemoryStore.backend e) t s p).run w
    ∃ report, result.1 = .ok report ∧
      Settles p w.state.1 report result.2.state.1.rejections ∧
      (∀ ref, result.2.state.1.resources.get? ref = w.state.1.resources.get? ref) ∧
      result.2.state.1.undeletable = w.state.1.undeletable := by
  intro result
  obtain ⟨outcome, r, calls, cleaned, m', way, cleans, ran⟩ := offline_atOnce p w.state.1
  have ends := ran τ e t s offline w rfl
  obtain ⟨report, reported⟩ : ∃ report, result.1 = .ok report := ⟨_, congrArg Prod.fst ends⟩
  have past := (run_acts (MemoryStore.backend e) t s p).history w
  have replays := MemoryStore.replays_of_history past
  obtain ⟨taken, outcome', driven, cleaned', splits, account⟩ :=
    run_account (MemoryStore.backend e) t s p reported
  have effect : NetEffect s p w.state.1 report _ result.2.state.1 :=
    account.netEffect (splits ▸ replays)
  -- None of the deletions is of a resource that cannot be deleted.
  have deletes : cleaned = r.created.reverse.map fun ref => .delete ref (.ok ()) := by
    rw [(ran τ e t s offline).callsOf rfl] at replays
    obtain ⟨mid, drive, clean⟩ := replays.split
    have same := drive.preserved MemoryStore.undeletable fun _ _ => fun here => here.undeletable
    refine clean.deletes cleans fun ref member => ?_
    obtain ⟨q, planned, rfl⟩ := way.created_planned ref (List.mem_reverse.1 member)
    rw [same]
    exact deletable q planned
  have concluded : report = (r.conclude outcome).recordDeletions cleaned :=
    Except.ok.inj (reported.symm.trans (congrArg Prod.fst ends))
  rw [deletes, recordDeletions_all] at concluded
  generalize calls.map Call.ask = asks at way
  have spotless : report.cleanupErrors = [] := by
    rw [concluded]
    cases way <;> rfl
  refine ⟨report, reported, ?_, ?_, effect.undeletable⟩
  · have left := effect.rejections
    rw [left, concluded]
    cases way with
    | invalid fault => cases valid.symm.trans fault
    | stopped _ place clear stuck => exact .stopped place clear stuck
    | submitted _ clear => exact .passed clear
  · intro ref
    cases before : w.state.1.resources.get? ref with
    | some stored => exact effect.kept ref stored before
    | none =>
      have absent : ¬result.2.state.1.contains ref = true := by
        rw [effect.stored, spotless, MemoryStore.contains_eq, before]
        simp
      rw [MemoryStore.contains_eq] at absent
      simpa using absent

/-! ### Runs in a row -/

/-- What one run does not share with the others in a row. -/
structure Turn where
  timing : Timing
  settings : Settings

section Row

variable {σ : Type}

/-- The world before run `i`, counted from zero, of runs of a plan on the same backend. -/
def worldBefore (b : Backend σ) (p : Plan) (turns : Nat → Turn) (w : World σ) : Nat → World σ
  | 0 => w
  | i + 1 => ((run b (turns i).timing (turns i).settings p).run (worldBefore b p turns w i)).2

/-- What run `i` comes to. -/
def endOf (b : Backend σ) (p : Plan) (turns : Nat → Turn) (w : World σ) (i : Nat) :
    Except Panic Report :=
  ((run b (turns i).timing (turns i).settings p).run (worldBefore b p turns w i)).1

end Row

theorem filter_not_mem_take {l : List Ref} (distinct : l.Nodup) (i : Nat) :
    l.filter (fun ref => ref ∉ l.take i) = l.drop i := by
  have split := List.take_append_drop i l
  rw [← split] at distinct
  have none : (l.take i).filter (fun ref => ref ∉ l.take i) = [] := by simp
  have all : (l.drop i).filter (fun ref => ref ∉ l.take i) = l.drop i := by
    refine List.filter_eq_self.2 fun ref late => decide_eq_true fun early => ?_
    exact (List.nodup_append.1 distinct).2.2 ref early ref late rfl
  calc l.filter (fun ref => ref ∉ l.take i)
      = (l.take i ++ l.drop i).filter (fun ref => ref ∉ l.take i) := by rw [split]
    _ = l.drop i := by rw [List.filter_append, none, all, List.nil_append]

/-- The resources of the plan whose creation is to be rejected, in the order of submission. -/
def armed (p : Plan) (m : MemoryStore) : List Ref :=
  (p.resources.map Resource.ref).filter fun ref => (m.rejections.get? ref).isSome

/-- A memory that was `m` before `i` runs in a row: they have used up a rejection each. -/
structure Worn (p : Plan) (m : MemoryStore) (i : Nat) (m' : MemoryStore) : Prop where
  resources : ∀ ref, m'.resources.get? ref = m.resources.get? ref
  undeletable : m'.undeletable = m.undeletable
  rejections : ∀ ref, m'.rejections.get? ref =
    if ref ∈ (armed p m).take i then none else m.rejections.get? ref

namespace Worn

variable {i : Nat}

theorem start (p : Plan) (m : MemoryStore) : Worn p m 0 m where
  resources _ := rfl
  undeletable := rfl
  rejections ref := by simp

/-- The rejections that were used up are the first ones. -/
theorem armed_eq (h : Worn p m i m') (valid : p.validate = .ok ()) :
    armed p m' = (armed p m).drop i := by
  have distinct : (armed p m).Nodup := (Plan.nodup_refs valid).filter _
  have left : armed p m' = (armed p m).filter fun ref => ref ∉ (armed p m).take i := by
    rw [armed, armed, List.filter_filter]
    refine List.filter_congr fun ref _ => ?_
    rw [h.rejections]
    split <;> simp_all [armed]
  rw [left, filter_not_mem_take distinct]

/-- Nothing is in the way of a resource but its rejection. -/
theorem obstacle?_eq (h : Worn p m i m') {q : Resource} (absent : m.contains q.ref = false) :
    m'.obstacle? q.ref = (m'.rejections.get? q.ref).map (.rejected q.ref) := by
  have still : m'.contains q.ref = false := by
    rw [MemoryStore.contains_eq, h.resources, ← MemoryStore.contains_eq, absent]
  rw [MemoryStore.obstacle?, still]
  cases m'.rejections.get? q.ref <;> rfl

/-- The next run uses up the next rejection, if there is one left. -/
theorem next {m'' : MemoryStore} (h : Worn p m i m')
    (resources : ∀ ref, m''.resources.get? ref = m'.resources.get? ref)
    (undeletable : m''.undeletable = m'.undeletable)
    (rejections : m''.rejections = (armed p m)[i]?.toList.foldl Table.erase m'.rejections) :
    Worn p m (i + 1) m'' where
  resources ref := (resources ref).trans (h.resources ref)
  undeletable := undeletable.trans h.undeletable
  rejections ref := by
    rw [rejections, List.take_add_one]
    cases (armed p m)[i]? with
    | none => simpa using h.rejections ref
    | some used =>
      simp only [Option.toList_some, List.foldl_cons, List.foldl_nil, Table.get?_erase,
        List.mem_append, List.mem_singleton, h.rejections]
      split <;> simp_all

end Worn

/-- How run `i` of a plan in a row ends that began in memory `m`. -/
inductive Nth (p : Plan) (m : MemoryStore) (i : Nat) : Report → Prop where
  | rejected {done rest : List Resource} {q : Resource} {reason : String}
      (place : p.resources = done ++ q :: rest) (turn : (armed p m)[i]? = some q.ref)
      (reasoned : m.rejections.get? q.ref = some reason) :
      Nth p m i (stoppedReport done q.ref (.rejected q.ref reason))
  | passed (late : (armed p m).length ≤ i) : Nth p m i (passedReport p)

/-- A run after `i` others ends as it should, and is one more of them. -/
theorem Worn.run (e : Exec.Endpoint τ) (t : Timing) {i : Nat} {w : World (MemoryStore × τ)}
    (h : Worn p m i w.state.1) (valid : p.validate = .ok ())
    (absent : ∀ q ∈ p.resources, m.contains q.ref = false)
    (deletable : ∀ q ∈ p.resources, q.ref ∉ m.undeletable) (offline : s.verifiesLiveState = false) :
    let result := (run (MemoryStore.backend e) t s p).run w
    ∃ report, result.1 = .ok report ∧ Nth p m i report ∧ Worn p m (i + 1) result.2.state.1 := by
  intro result
  have still : ∀ q ∈ p.resources, q.ref ∉ w.state.1.undeletable := h.undeletable ▸ deletable
  obtain ⟨report, reported, settles, resources, undeletable⟩ := run_settles e t valid still offline
  have left := h.armed_eq valid
  refine ⟨report, reported, ?_⟩
  generalize rejections :
    ((Scenario.run (MemoryStore.backend e) t s p).run w).2.state.1.rejections = table at settles
  cases settles with
  | passed clear =>
    have none : armed p w.state.1 = [] := by
      refine List.filter_eq_nil_iff.2 fun ref member => ?_
      obtain ⟨q, planned, rfl⟩ := List.mem_map.1 member
      simp [(MemoryStore.obstacle?_eq_none.1 (clear q planned)).1]
    rw [none] at left
    have late : (armed p m).length ≤ i := List.drop_eq_nil_iff.1 left.symm
    refine ⟨.passed late, h.next resources undeletable ?_⟩
    rw [rejections, List.getElem?_eq_none late]
    rfl
  | @stopped done rest q error place clear stuck =>
    have planned : q ∈ p.resources := place ▸ List.mem_append_right _ List.mem_cons_self
    rw [h.obstacle?_eq (absent q planned)] at stuck
    obtain ⟨reason, reasoned, rfl⟩ := Option.map_eq_some_iff.1 stuck
    have none : (done.map Resource.ref).filter
        (fun ref => (w.state.1.rejections.get? ref).isSome) = [] := by
      refine List.filter_eq_nil_iff.2 fun ref member => ?_
      obtain ⟨earlier, listed, rfl⟩ := List.mem_map.1 member
      simp [(MemoryStore.obstacle?_eq_none.1 (clear earlier listed)).1]
    -- Nothing before the resource is armed any more, so it is the next that was armed.
    have head : (armed p w.state.1).head? = some q.ref := by
      rw [armed, place, List.map_append, List.map_cons, List.filter_append, none, List.nil_append,
        List.filter_cons_of_pos (by rw [reasoned]; rfl)]
      rfl
    have turn : (armed p m)[i]? = some q.ref := by
      rw [← head, left, List.head?_drop]
    refine ⟨.rejected place turn ?_, h.next resources undeletable ?_⟩
    · rw [h.rejections] at reasoned
      split at reasoned
      · cases reasoned
      · exact reasoned
    · rw [rejections, turn]
      rfl

/-- Run `i` of a row runs into rejection `i`, and the runs after the last rejection all pass. Each
finds the store with the entries that it had before the first. -/
theorem run_again (e : Exec.Endpoint τ) (turns : Nat → Turn) (w : World (MemoryStore × τ))
    (valid : p.validate = .ok ())
    (absent : ∀ q ∈ p.resources, w.state.1.contains q.ref = false)
    (deletable : ∀ q ∈ p.resources, q.ref ∉ w.state.1.undeletable)
    (offline : ∀ i, (turns i).settings.verifiesLiveState = false) (i : Nat) :
    let before := (worldBefore (MemoryStore.backend e) p turns w i).state.1
    (∀ ref, before.resources.get? ref = w.state.1.resources.get? ref) ∧
      ∃ report, endOf (MemoryStore.backend e) p turns w i = .ok report ∧
        (∀ ref, (armed p w.state.1)[i]? = some ref → ∃ done q rest reason,
          p.resources = done ++ q :: rest ∧ q.ref = ref ∧
            w.state.1.rejections.get? ref = some reason ∧
            report = stoppedReport done ref (.rejected ref reason)) ∧
        ((armed p w.state.1).length ≤ i → report = passedReport p) := by
  intro before
  have worn : ∀ n, Worn p w.state.1 n
      (worldBefore (MemoryStore.backend e) p turns w n).state.1 := by
    intro n
    induction n with
    | zero => exact .start p w.state.1
    | succ n ih =>
      obtain ⟨_, -, -, next⟩ := ih.run e (turns n).timing valid absent deletable (offline n)
      exact next
  obtain ⟨report, reported, ends, -⟩ :=
    (worn i).run e (turns i).timing valid absent deletable (offline i)
  refine ⟨(worn i).resources, report, reported, ?_⟩
  cases ends with
  | rejected place turn reasoned =>
    constructor
    · intro ref here
      obtain rfl := Option.some.inj (turn.symm.trans here)
      exact ⟨_, _, _, _, place, rfl, reasoned, rfl⟩
    · intro late
      rw [List.getElem?_eq_none late] at turn
      cases turn
  | passed late =>
    refine ⟨fun ref here => ?_, fun _ => rfl⟩
    rw [List.getElem?_eq_none late] at here
    cases here

/-- Two rejections take two runs, whatever the order they were armed in. -/
theorem run_again_twice :
    let p := Plan.addressRollout "broker"
    let late := (Plan.rolloutAddress "broker" 3).ref
    let m := MemoryStore.rejectCreate p.cluster.ref "quota"
      (MemoryStore.rejectCreate late "denied" {})
    let ended := endOf (MemoryStore.backend (τ := Unit) .offline) p (fun _ => ⟨.brief, {}⟩)
      { state := (m, ()) }
    (∃ report, ended 0 = .ok report ∧
        report.failure = some (.submission p.cluster.ref (.rejected p.cluster.ref "quota"))) ∧
      (∃ report, ended 1 = .ok report ∧
        report.failure = some (.submission late (.rejected late "denied"))) ∧
      ended 2 = .ok (passedReport p) := by
  intro p late m ended
  have again (i : Nat) := run_again (p := p) (τ := Unit) .offline (fun _ => ⟨.brief, {}⟩)
    { state := (m, ()) } rfl (fun _ _ => rfl) (fun _ _ => List.not_mem_nil) (fun _ => rfl) i
  have armed (ref : Ref) (reason : String) (i : Nat) (turn : (armed p m)[i]? = some ref)
      (reasoned : m.rejections.get? ref = some reason) : ∃ report, ended i = .ok report ∧
        report.failure = some (.submission ref (.rejected ref reason)) := by
    obtain ⟨-, report, reported, rejected, -⟩ := again i
    obtain ⟨_, _, _, other, -, -, same, ends⟩ := rejected ref turn
    obtain rfl := Option.some.inj (reasoned.symm.trans same)
    exact ⟨report, reported, congrArg Report.failure ends⟩
  obtain ⟨-, report, reported, -, passes⟩ := again 2
  exact ⟨armed _ _ 0 rfl rfl, armed _ _ 1 rfl rfl, passes (Nat.le_refl 2) ▸ reported⟩

end Scenario

end BrokerRollout
