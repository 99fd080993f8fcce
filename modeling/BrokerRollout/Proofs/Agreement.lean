import BrokerRollout.Proofs.Course
import BrokerRollout.Store.Memory

/-!
# Runs on two backends

Two backends are alike if they answer alike to everything but deletions. A run deletes only when
all else is done, and so it comes to the same verdict on both. Main statement: the reports differ
at most in what they say of deletions (`Scenario.verdict_agrees`).
-/

namespace BrokerRollout

variable {σ τ π ε α β : Type} {R : σ → τ → Prop}

/-! ### Activities -/

/-- Replies with the same answer after the same time, which leave related states. -/
structure Reply.Agree (R : σ → τ → Prop) (x : Reply σ α) (y : Reply τ α) : Prop where
  answer : x.answer = y.answer
  took : x.took = y.took
  state : R x.state y.state

/-- Backends that answer alike to creations, reads and commands, from states that `R` relates. -/
structure Backend.Alike (R : σ → τ → Prop) (b : Backend σ) (c : Backend τ) : Prop where
  create : ∀ resource now x y, R x y →
    (b.store.create resource now x).Agree R (c.store.create resource now y)
  get : ∀ ref now x y, R x y → (b.store.get ref now x).Agree R (c.store.get ref now y)
  openSession : ∀ request now x y, R x y →
    (b.endpoint.openSession request now x).Agree R (c.endpoint.openSession request now y)

namespace MemoryStore

/-- The store in memory, with other resources that it fails to delete. -/
def stuck (refs : List Ref) (m : MemoryStore) : MemoryStore := { m with undeletable := refs }

theorem create_stuck (resource : Resource) (refs : List Ref) (m : MemoryStore) :
    (m.stuck refs).create resource =
      ((m.create resource).1, (m.create resource).2.stuck refs) := by
  cases rejected : m.rejections.get? resource.ref <;>
    cases there : m.resources.contains resource.ref <;>
      simp [create, stuck, contains, rejected, there]

theorem get_stuck (ref : Ref) (refs : List Ref) (m : MemoryStore) :
    (m.stuck refs).get ref = ((m.get ref).1, (m.get ref).2.stuck refs) := by
  cases found : m.resources.get? ref <;> simp [get, stuck, found, scripted?]

theorem stuck_alike (refs : List Ref) :
    Backend.Alike (fun x y => y = x.stuck refs) ⟨store, .offline⟩ ⟨store, .offline⟩ where
  create resource now x _ := by
    rintro rfl
    simp only [store, create_stuck]
    exact ⟨rfl, rfl, rfl⟩
  get ref now x _ := by
    rintro rfl
    simp only [store, get_stuck]
    exact ⟨rfl, rfl, rfl⟩
  openSession _ _ _ _ related := ⟨rfl, rfl, related⟩

end MemoryStore

/-- Worlds at the same time in related states. -/
structure World.Alike (R : σ → τ → Prop) (w : World σ) (v : World τ) : Prop where
  now : w.now = v.now
  state : R w.state v.state

namespace Sim

/-- Activities that have the same result in worlds that are alike, and leave them alike. -/
def Agree (R : σ → τ → Prop) (x : Sim σ α) (y : Sim τ α) : Prop :=
  ∀ w v, World.Alike R w v → (x.run w).1 = (y.run v).1 ∧ World.Alike R (x.run w).2 (y.run v).2

namespace Agree

theorem pure (a : α) : Agree R (Pure.pure a) (Pure.pure a) := fun _ _ alike => ⟨rfl, alike⟩

theorem bind {x : Sim σ α} {y : Sim τ α} {f : α → Sim σ β} {g : α → Sim τ β} (first : Agree R x y)
    (next : ∀ a, Agree R (f a) (g a)) : Agree R (x >>= f) (y >>= g) := by
  intro w v alike
  obtain ⟨same, later⟩ := first w v alike
  show _ = ((g (y.run v).1).run (y.run v).2).1 ∧
    World.Alike R _ ((g (y.run v).1).run (y.run v).2).2
  rw [← same]
  exact next (x.run w).1 _ _ later

end Agree

theorem now_agree : Agree R now now := fun _ _ alike => ⟨alike.now, alike⟩

theorem wait_agree (span : Nat) : Agree R (wait span) (wait span) :=
  fun _ _ alike => ⟨rfl, congrArg (· + span) alike.now, alike.state⟩

theorem sleepUntil_agree (t : Nat) : Agree R (sleepUntil t) (sleepUntil t) :=
  fun _ _ alike => ⟨rfl, congrArg (max · (Time.ceilMilli t)) alike.now, alike.state⟩

theorem shutDown_agree (session : Exec.Session) : Agree R (shutDown session) (shutDown session) :=
  fun _ _ alike => ⟨rfl, alike.now, alike.state⟩

theorem call_agree {ask : Nat → σ → Reply σ α} {ask' : Nat → τ → Reply τ α} (toCall : α → Call)
    (replies : ∀ now x y, R x y → (ask now x).Agree R (ask' now y)) :
    Agree R (call ask toCall) (call ask' toCall) := by
  rintro ⟨now, x, _⟩ ⟨now', y, _⟩ alike
  obtain rfl : now = now' := alike.now
  have reply := replies now x y alike.state
  exact ⟨reply.answer, congrArg (now + ·) reply.took, reply.state⟩

theorem exec_agree {b : Backend σ} {c : Backend τ} (alike : b.Alike R c) (request : Exec.Request) :
    Agree R (exec b.endpoint request) (exec c.endpoint request) := by
  rw [exec_eq, exec_eq]
  refine (call_agree _ (alike.openSession request)).bind fun opening => ?_
  cases opening with
  | error e => exact Agree.pure _
  | ok session =>
    exact (shutDown_agree session).bind fun _ =>
      (wait_agree session.took).bind fun _ => Agree.pure _

end Sim

/-! ### Polls -/

/-- Probing activities that agree whatever they remember. -/
def Probing.Agree (R : σ → τ → Prop) (x : Probing π σ α) (y : Probing π τ α) : Prop :=
  ∀ m, Sim.Agree R (x.run m) (y.run m)

theorem Poll.resume_agree {x : Probing π σ (Except ε α)} {y : Probing π τ (Except ε α)}
    (agree : Probing.Agree R x y) (w : Window) (start made : Nat) :
    Probing.Agree R (resume w x start made) (resume w y start made) := by
  -- Both polls make an attempt, see the same time and so wait for the same slot.
  induction left : w.slots - made using Nat.strongRecOn generalizing made with
  | ind left ih =>
    subst left
    intro m
    rw [resume.eq_def w x, resume.eq_def w y, StateT.run_bind, StateT.run_bind]
    refine (agree m).bind ?_
    rintro ⟨error | value, m⟩
    · simp only [StateT.run_bind, StateT.run_monadLift, monadLift_self, bind_assoc, pure_bind]
      refine Sim.now_agree.bind fun now => ?_
      split
      case h_1 offset slot =>
        split
        case isFalse => exact Sim.Agree.pure _
        split
        case h_2 => exact Sim.Agree.pure _
        simp only [StateT.run_bind, StateT.run_monadLift, monadLift_self, bind_assoc, pure_bind]
        refine (Sim.sleepUntil_agree _).bind fun _ => ?_
        split
        case isFalse => exact Sim.Agree.pure _
        have fits := Window.le_slots_of_slot? slot
        exact ih _ (by omega) (made + 1) rfl m
      case h_2 => exact Sim.Agree.pure _
    · exact Sim.Agree.pure _

theorem Poll.run_agree {x : Probing π σ (Except ε α)} {y : Probing π τ (Except ε α)}
    (agree : Probing.Agree R x y) (w : Window) : Probing.Agree R (run w x) (run w y) := by
  intro m
  simp only [run, StateT.run_bind, StateT.run_monadLift, monadLift_self, bind_assoc, pure_bind]
  exact Sim.now_agree.bind fun start => resume_agree agree w start 0 m

variable {b : Backend σ} {c : Backend τ}

theorem ReadyProbe.attempt_agree (alike : b.Alike R c) :
    Probing.Agree R (attempt b.store) (attempt c.store) := by
  intro m
  rw [attempt_run, attempt_run]
  exact (Sim.call_agree _ (alike.get m.cluster)).bind fun _ => Sim.Agree.pure _

theorem PersistedProbe.attempt_agree (alike : b.Alike R c) :
    Probing.Agree R (attempt b.store) (attempt c.store) := by
  intro m
  rw [attempt_run, attempt_run]
  exact (Sim.call_agree _ (alike.get m.ref)).bind fun _ => Sim.Agree.pure _

theorem WorkerProbe.attempt_agree (alike : b.Alike R c) :
    Probing.Agree R (attempt b.endpoint) (attempt c.endpoint) := by
  intro m
  rw [attempt_run, attempt_run]
  exact (Sim.exec_agree alike m.request).bind fun _ => Sim.Agree.pure _

/-! ### Runs -/

namespace Scenario

variable {t : Timing} {s : Settings} {p : Plan}

theorem take_agree (alike : b.Alike R c) (step : Step) :
    Probing.Agree R (take b t step) (take c t step) := by
  intro r
  cases step with
  | submit resource =>
    rw [take_submit, take_submit]
    exact (Sim.call_agree _ (alike.create resource)).bind fun _ => Sim.Agree.pure _
  | awaitReady cluster expected =>
    rw [take_awaitReady, take_awaitReady]
    exact (Poll.run_agree (ReadyProbe.attempt_agree alike) _ _).bind fun _ => Sim.Agree.pure _
  | awaitPersisted ref =>
    rw [take_awaitPersisted, take_awaitPersisted]
    exact (Poll.run_agree (PersistedProbe.attempt_agree alike) _ _).bind fun _ => Sim.Agree.pure _
  | enter phase => exact Sim.Agree.pure _
  | checkWorker request markers =>
    rw [take_checkWorker, take_checkWorker]
    exact (Poll.run_agree (WorkerProbe.attempt_agree alike) _ _).bind fun _ => Sim.Agree.pure _

theorem takeAll_agree (alike : b.Alike R c) (steps : List Step) :
    Probing.Agree R (takeAll b t steps) (takeAll c t steps) := by
  induction steps with
  | nil => exact fun r => Sim.Agree.pure _
  | cons step rest ih =>
    intro r
    rw [takeAll, takeAll, StateT.run_bind, StateT.run_bind]
    refine (take_agree alike step r).bind ?_
    rintro ⟨panic | failure | ⟨⟩, r⟩
    · exact Sim.Agree.pure _
    · exact Sim.Agree.pure _
    · exact ih r

theorem drive_agree (alike : b.Alike R c) : Probing.Agree R (drive b t s p) (drive c t s p) := by
  intro r
  unfold drive
  cases p.validate with
  | error e => exact Sim.Agree.pure _
  | ok _ => exact takeAll_agree alike (steps p s) r

/-- What a report says of everything but deletions. -/
def Report.verdict (r : Report) : Report := { r with deleted := [], cleanupErrors := [] }

theorem Report.verdict_eq {q r : Report} : q.verdict = r.verdict ↔
    q.trail = r.trail ∧ q.failure = r.failure ∧ q.created = r.created ∧
      q.verifiedWorkers = r.verifiedWorkers := by
  simp only [verdict, mk.injEq]
  constructor
  · rintro ⟨trail, created, verified, -, -, failure⟩
    exact ⟨trail, failure, created, verified⟩
  · rintro ⟨trail, failure, created, verified⟩
    exact ⟨trail, created, verified, trivial, trivial, failure⟩

/-- The steps of a run decide its verdict. -/
theorem run_verdict (b : Backend σ) (w : World σ) :
    let driven := (((drive b t s p).run {}).run w).1
    ((run b t s p).run w).1.map Report.verdict =
      driven.1.map fun outcome => (driven.2.conclude outcome).verdict := by
  obtain ⟨_, -, taken, -, recorded⟩ := drive_acts b t s p {} w
  obtain ⟨⟨⟨ended, report⟩, after⟩, ran⟩ :
      ∃ out, ((drive b t s p).run {}).run w = out := ⟨_, rfl⟩
  rw [ran] at recorded
  rw [run_eq, Sim.run_bind_of ran, ran]
  cases ended with
  | error panic => rfl
  | ok outcome =>
    have unfailed : report.failure = none := congrArg Report.failure recorded
    obtain ⟨_, -, -, final⟩ := finish_acts b outcome unfailed after
    have same := congrArg Report.verdict final
    exact congrArg Except.ok same

/-- On backends that are alike a run comes to the same verdict. -/
theorem verdict_agrees (alike : b.Alike R c) {w : World σ} {v : World τ} (h : World.Alike R w v) :
    ((run b t s p).run w).1.map Report.verdict = ((run c t s p).run v).1.map Report.verdict := by
  rw [run_verdict, run_verdict, (drive_agree alike {} w v h).1]

end Scenario

end BrokerRollout
