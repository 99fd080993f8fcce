import BrokerRollout.Probe.Convergence
import BrokerRollout.Probe.Worker
import BrokerRollout.Proofs.History

/-!
# Polls by their calls

An attempt of a probe is one call, and the answer decides it. A poll is then a list of answers: all
but the last were in vain, the last is what the poll ends with, and there are at most as many as
the window has slots, and one. If it panics, all of them were in vain (`Poll.run_acts`).
-/

namespace BrokerRollout

variable {σ β π ε α : Type}

/-- A window has no attempt left after this many of them, or its timeout has passed. -/
def Window.Closed (w : Window) (attempts elapsed : Nat) : Prop :=
  w.slots < attempts ∨ w.timeout.nanos ≤ elapsed

instance (w : Window) (attempts elapsed : Nat) : Decidable (w.Closed attempts elapsed) :=
  instDecidableOr

/-- A probe by its calls: what it makes of an answer, and what it remembers after several. -/
structure Sampling (β π ε α : Type) where
  call : β → Call
  judge : β → Except ε α
  memory : List β → π

namespace Sampling

/-- One attempt is one call, in every state that the probe gets into. -/
def Describes (s : Sampling β π ε α) (b : Backend σ) (attempt : Probing π σ (Except ε α)) : Prop :=
  ∀ seen, Sim.Acts b (attempt.run (s.memory seen)) fun result calls =>
    ∃ answer, calls = [s.call answer] ∧ result = (s.judge answer, s.memory (seen ++ [answer]))

/-- The answers that failed an attempt. -/
def Vain (s : Sampling β π ε α) (answers : List β) : Prop :=
  ∀ answer ∈ answers, ∃ error, s.judge answer = .error error

/-- How a poll that has made `made` attempts ends with the answers to come. -/
inductive Ends (s : Sampling β π ε α) (w : Window) (made : Nat) :
    Except (Exhausted ε) α → List β → Prop where
  | held {vain : List β} {last : β} {value : α} (before : s.Vain vain)
      (bound : made + vain.length ≤ w.slots) (judged : s.judge last = .ok value) :
      Ends s w made (.ok value) (vain ++ [last])
  | exhausted {vain : List β} {last : β} {error : ε} {elapsed : Nat} (before : s.Vain vain)
      (bound : made + vain.length ≤ w.slots) (judged : s.judge last = .error error)
      (closed : w.Closed (made + vain.length + 1) elapsed) :
      Ends s w made (.error ⟨error, made + vain.length + 1, elapsed⟩) (vain ++ [last])

/-- The answers of a poll that panics on the way to its next attempt, which has a slot. -/
structure Panics (s : Sampling β π ε α) (w : Window) (made : Nat) (panic : Panic)
    (answers : List β) : Prop where
  some : answers ≠ []
  vain : s.Vain answers
  bound : made + answers.length ≤ w.slots
  uncounted : panic = .count → Window.maxCount ≤ made + answers.length

/-- How a poll that has made `made` attempts comes to its end with the answers to come. -/
def Comes (s : Sampling β π ε α) (w : Window) (made : Nat) (ended : Poll.Ending ε α)
    (answers : List β) : Prop :=
  match ended with
  | .ok outcome => s.Ends w made outcome answers
  | .error panic => s.Panics w made panic answers

theorem Ends.retry {s : Sampling β π ε α} {w : Window} {made : Nat}
    {outcome : Except (Exhausted ε) α} {answers : List β} {answer : β} {error : ε}
    (judged : s.judge answer = .error error) (h : s.Ends w (made + 1) outcome answers) :
    s.Ends w made outcome (answer :: answers) := by
  have longer {vain : List β} (before : s.Vain vain) : s.Vain (answer :: vain) :=
    List.forall_mem_cons.2 ⟨⟨error, judged⟩, before⟩
  cases h with
  | held before bound last =>
    exact .held (longer before) (by rw [List.length_cons]; omega) last
  | @exhausted vain _ _ _ before bound last closed =>
    have count : made + 1 + vain.length + 1 = made + (answer :: vain).length + 1 := by
      rw [List.length_cons]; omega
    rw [count] at closed ⊢
    rw [← List.cons_append]
    exact .exhausted (longer before) (by rw [List.length_cons]; omega) last closed

theorem Panics.retry {s : Sampling β π ε α} {w : Window} {made : Nat} {panic : Panic}
    {answers : List β} {answer : β} {error : ε} (judged : s.judge answer = .error error)
    (h : s.Panics w (made + 1) panic answers) : s.Panics w made panic (answer :: answers) where
  some := List.cons_ne_nil _ _
  vain := List.forall_mem_cons.2 ⟨⟨error, judged⟩, h.vain⟩
  bound := by
    have bound := h.bound
    rw [List.length_cons]
    omega
  uncounted full := by
    have many := h.uncounted full
    rw [List.length_cons]
    omega

theorem Comes.retry {s : Sampling β π ε α} {w : Window} {made : Nat} {ended : Poll.Ending ε α}
    {answers : List β} {answer : β} {error : ε} (judged : s.judge answer = .error error)
    (h : s.Comes w (made + 1) ended answers) : s.Comes w made ended (answer :: answers) := by
  cases ended with
  | ok outcome => exact Ends.retry judged h
  | error panic => exact Panics.retry judged h

theorem Panics.single {s : Sampling β π ε α} {w : Window} {made : Nat} {panic : Panic} {answer : β}
    {error : ε} (judged : s.judge answer = .error error) (bound : made + 1 ≤ w.slots)
    (uncounted : panic = .count → Window.maxCount ≤ made + 1) : s.Panics w made panic [answer] :=
  ⟨List.cons_ne_nil _ _, by simp [Vain, judged], bound, uncounted⟩

theorem Panics.length_pos {s : Sampling β π ε α} {w : Window} {made : Nat} {panic : Panic}
    {answers : List β} (h : s.Panics w made panic answers) : 1 ≤ answers.length :=
  List.length_pos_iff.2 h.some

/-- The attempts of a window with few slots are counted. -/
theorem Panics.instant {s : Sampling β π ε α} {w : Window} {panic : Panic} {answers : List β}
    (h : s.Panics w 0 panic answers) (few : w.slots < Window.maxCount) : panic = .instant := by
  cases panic with
  | instant => rfl
  | count =>
    have many := h.uncounted rfl
    have bound := h.bound
    omega

theorem Ends.length_pos {s : Sampling β π ε α} {w : Window} {made : Nat}
    {outcome : Except (Exhausted ε) α} {answers : List β} (h : s.Ends w made outcome answers) :
    1 ≤ answers.length := by
  cases h <;> simp

theorem Ends.lastError {s : Sampling β π ε α} {w : Window} {exhausted : Exhausted ε}
    {answers : List β} (h : s.Ends w 0 (.error exhausted) answers) :
    ∃ vain answer error elapsed, answers = vain ++ [answer] ∧
      exhausted = ⟨error, vain.length + 1, elapsed⟩ ∧ s.judge answer = .error error ∧
      w.Closed (vain.length + 1) elapsed := by
  cases h with
  | @exhausted vain answer error elapsed _ _ judged closed =>
    rw [Nat.zero_add] at closed ⊢
    exact ⟨vain, answer, error, elapsed, rfl, rfl, judged, closed⟩

theorem Ends.attempts_eq {s : Sampling β π ε α} {w : Window} {exhausted : Exhausted ε}
    {answers : List β} (h : s.Ends w 0 (.error exhausted) answers) :
    exhausted.attempts = answers.length := by
  obtain ⟨vain, _, _, _, rfl, rfl, -⟩ := h.lastError
  simp

end Sampling

namespace Poll

variable {b : Backend σ} {s : Sampling β π ε α} {attempt : Probing π σ (Except ε α)}

theorem resume_acts (h : s.Describes b attempt) (w : Window) (start made : Nat) (seen : List β)
    (room : made ≤ w.slots) :
    Sim.Acts b ((resume w attempt start made).run (s.memory seen)) fun result calls =>
      ∃ answers, calls = answers.map s.call ∧ s.Comes w made result.1 answers ∧
        result.2 = s.memory (seen ++ answers) := by
  -- Each attempt in vain uses up one of the slots that are left.
  induction left : w.slots - made using Nat.strongRecOn generalizing made seen with
  | ind left ih =>
    subst left
    rw [resume, StateT.run_bind]
    refine (h seen).bind ?_
    rintro _ _ ⟨answer, rfl, rfl⟩
    have none : s.Vain [] := by simp [Sampling.Vain]
    cases judged : s.judge answer with
    | ok value =>
      have held : s.Ends w made (.ok value) [answer] := .held none room judged
      exact Sim.Acts.pure ⟨[answer], rfl, held, rfl⟩
    | error error =>
      simp only [StateT.run_bind, StateT.run_monadLift, monadLift_self, bind_assoc, pure_bind]
      refine (Sim.now_acts b).bind ?_
      rintro now _ rfl
      have exhausted (closed : w.Closed (made + 1) (now - start)) :
          s.Ends w made (.error ⟨error, made + 1, now - start⟩) [answer] :=
        .exhausted none room judged closed
      split
      case h_1 offset slot =>
        have fits := Window.le_slots_of_slot? slot
        split
        case isFalse late =>
          have closed : w.Closed (made + 1) (now - start) := .inr (Nat.le_of_not_lt late)
          exact Sim.Acts.pure ⟨[answer], rfl, exhausted closed, rfl⟩
        split
        case h_2 =>
          have panics : s.Panics w made .instant [answer] := .single judged fits (by simp)
          exact Sim.Acts.pure ⟨[answer], rfl, panics, rfl⟩
        simp only [StateT.run_bind, StateT.run_monadLift, monadLift_self, bind_assoc, pure_bind]
        refine (Sim.sleepUntil_acts b _).bind ?_
        rintro _ _ rfl
        split
        case isFalse full =>
          have panics : s.Panics w made .count [answer] :=
            .single judged fits fun _ => Nat.le_of_not_lt full
          exact Sim.Acts.pure ⟨[answer], rfl, panics, rfl⟩
        refine (ih _ (by omega) (made + 1) (seen ++ [answer]) fits rfl).mono ?_
        rintro result calls ⟨answers, rfl, comes, memory⟩
        exact ⟨answer :: answers, rfl, comes.retry judged, by simpa using memory⟩
      case h_2 unoffered =>
        have last : ¬made + 1 ≤ w.slots := by
          rw [← Window.slot?_isSome_iff, unoffered]
          exact Bool.false_ne_true
        have closed : w.Closed (made + 1) (now - start) := .inl (Nat.lt_of_not_le last)
        exact Sim.Acts.pure ⟨[answer], rfl, exhausted closed, rfl⟩

theorem run_acts (h : s.Describes b attempt) (w : Window) :
    Sim.Acts b ((run w attempt).run (s.memory [])) fun result calls =>
      ∃ answers, calls = answers.map s.call ∧ s.Comes w 0 result.1 answers ∧
        result.2 = s.memory answers := by
  simp only [run, StateT.run_bind, StateT.run_monadLift, monadLift_self, bind_assoc, pure_bind]
  refine (Sim.now_acts b).bind ?_
  rintro start _ rfl
  exact resume_acts h w start 0 [] (Nat.zero_le _)

end Poll

/-! ### The three probes -/

/-- What a store answers to a read. -/
abbrev ReadAnswer := Except Store.Error (Option Store.Observation)

/-- What a read of a resource that has to be there makes of the answer. -/
def ReadAnswer.existing (ref : Ref) : ReadAnswer → Except NotConverged Store.Observation
  | .ok (some found) => .ok found
  | .ok none => .error (.missing ref)
  | .error e => .error (.store e)

def ReadAnswer.ready? : ReadAnswer → Option Nat
  | .ok (some found) => some found.readyCount
  | _ => none

/-- The ready count of the last answer that found the resource. -/
def lastReady (answers : List ReadAnswer) : Option Nat :=
  (answers.filterMap ReadAnswer.ready?).getLast?

theorem lastReady_concat (answers : List ReadAnswer) (answer : ReadAnswer) :
    lastReady (answers ++ [answer]) = answer.ready?.or (lastReady answers) := by
  rw [lastReady, List.filterMap_append]
  cases found : answer.ready? <;> simp [found, lastReady]

namespace ReadyProbe

/-- The probe passes at exactly the expected number of ready workers. -/
def judge (cluster : Ref) (expected : Nat) (answer : ReadAnswer) :
    Except NotConverged Store.Observation :=
  match answer.existing cluster with
  | .error e => .error e
  | .ok found =>
    if found.readyCount = expected then .ok found
    else .error (.readyMismatch cluster expected found.readyCount)

def sampling (cluster : Ref) (expected : Nat) :
    Sampling ReadAnswer ReadyProbe NotConverged Store.Observation where
  call := .get cluster
  judge := judge cluster expected
  memory seen := { cluster, expected, lastObserved := lastReady seen }

theorem judge_found (cluster : Ref) (expected : Nat) (found : Store.Observation) :
    judge cluster expected (.ok (some found)) =
      if found.readyCount = expected then .ok found
      else .error (.readyMismatch cluster expected found.readyCount) := rfl

theorem judge_eq_ok_iff {cluster : Ref} {expected : Nat} {answer : ReadAnswer}
    {o : Store.Observation} : judge cluster expected answer = .ok o ↔
      answer = .ok (some o) ∧ o.readyCount = expected := by
  rcases answer with e | _ | found
  · simp [judge, ReadAnswer.existing]
  · simp [judge, ReadAnswer.existing]
  · rw [judge_found]
    constructor
    · split
      next met =>
        rintro ⟨⟩
        exact ⟨rfl, met⟩
      next => nofun
    · rintro ⟨⟨⟩, met⟩
      rw [if_pos met]

/-- An attempt is a read and a verdict on the answer. -/
theorem attempt_run (s : Store σ) (m : ReadyProbe) :
    (attempt s).run m = Sim.read s m.cluster >>= fun answer => pure
      (judge m.cluster m.expected answer,
        { m with lastObserved := (ReadAnswer.ready? answer).or m.lastObserved }) := by
  simp only [attempt, Sim.readExisting, StateT.run_bind, StateT.run_get, StateT.run_monadLift,
    monadLift_self, bind_assoc, pure_bind]
  refine congrArg (Sim.read s m.cluster >>= ·) (funext fun answer => ?_)
  rcases answer with e | _ | found
  · rfl
  · rfl
  · simp only [pure_bind, StateT.run_bind, StateT.run_set, judge_found]
    split <;> rfl

/-- The probe after a read that was so answered. -/
def remember (p : ReadyProbe) (answer : ReadAnswer) : ReadyProbe :=
  { p with lastObserved := answer.ready?.or p.lastObserved }

theorem attempt_acts (b : Backend σ) (p : ReadyProbe) :
    Sim.Acts b ((attempt b.store).run p) fun result calls => ∃ answer,
      calls = [.get p.cluster answer] ∧
        result = (judge p.cluster p.expected answer, p.remember answer) := by
  rw [attempt_run]
  refine (Sim.read_acts b p.cluster).bind_pure ?_
  rintro answer _ rfl
  exact ⟨_, rfl, answer, rfl, rfl⟩

theorem sampling_describes (b : Backend σ) (cluster : Ref) (expected : Nat) :
    (sampling cluster expected).Describes b (attempt b.store) := by
  intro seen
  refine (attempt_acts b _).mono ?_
  rintro _ _ ⟨answer, rfl, rfl⟩
  refine ⟨answer, rfl, ?_⟩
  simp only [sampling, remember, lastReady_concat]

end ReadyProbe

namespace PersistedProbe

/-- The probe passes on an observation with the name that was asked for. -/
def judge (ref : Ref) (answer : ReadAnswer) : Except NotConverged Store.Observation :=
  match answer.existing ref with
  | .error e => .error e
  | .ok found =>
    if found.ref.name = ref.name then .ok found else .error (.nameMismatch ref found.ref.name)

def sampling (ref : Ref) : Sampling ReadAnswer PersistedProbe NotConverged Store.Observation where
  call := .get ref
  judge := judge ref
  memory _ := { ref }

theorem judge_found (ref : Ref) (found : Store.Observation) :
    judge ref (.ok (some found)) =
      if found.ref.name = ref.name then .ok found
      else .error (.nameMismatch ref found.ref.name) := rfl

/-- A look passes with what was observed, if that has the name that was asked for. -/
theorem judge_eq_ok_iff {ref : Ref} {answer : ReadAnswer} {found : Store.Observation} :
    judge ref answer = .ok found ↔ answer = .ok (some found) ∧ found.ref.name = ref.name := by
  rcases answer with e | _ | other
  · exact iff_of_false nofun nofun
  · exact iff_of_false nofun nofun
  · rw [judge_found]
    by_cases same : other.ref.name = ref.name
    · rw [if_pos same]
      constructor
      · rintro ⟨⟩
        exact ⟨rfl, same⟩
      · rintro ⟨⟨⟩, -⟩
        rfl
    · rw [if_neg same]
      refine iff_of_false nofun ?_
      rintro ⟨⟨⟩, named⟩
      exact same named

theorem attempt_run (s : Store σ) (m : PersistedProbe) :
    (attempt s).run m = Sim.read s m.ref >>= fun answer => pure (judge m.ref answer, m) := by
  simp only [attempt, Sim.readExisting, StateT.run_bind, StateT.run_get, StateT.run_monadLift,
    monadLift_self, bind_assoc, pure_bind]
  refine congrArg (Sim.read s m.ref >>= ·) (funext fun answer => ?_)
  rcases answer with e | _ | found
  · rfl
  · rfl
  · simp only [pure_bind, judge_found]
    split <;> rfl

theorem attempt_acts (b : Backend σ) (p : PersistedProbe) :
    Sim.Acts b ((attempt b.store).run p) fun result calls => ∃ answer,
      calls = [.get p.ref answer] ∧ result = (judge p.ref answer, p) := by
  rw [attempt_run]
  refine (Sim.read_acts b p.ref).bind_pure ?_
  rintro answer _ rfl
  exact ⟨_, rfl, answer, rfl, rfl⟩

theorem sampling_describes (b : Backend σ) (ref : Ref) :
    (sampling ref).Describes b (attempt b.store) :=
  fun _ => attempt_acts b { ref }

end PersistedProbe

namespace WorkerProbe

def sampling (request : Exec.Request) (markers : List String) :
    Sampling (Except Exec.Error Exec.Session) WorkerProbe WorkerError Exec.Output where
  call := .openSession request
  judge answer := judge request markers (.ofOpening answer)
  memory seen := { request, markers, attempts := seen.length }

theorem attempt_run (e : Exec.Endpoint σ) (m : WorkerProbe) :
    (attempt e).run m = Sim.exec e m.request >>= fun output => pure
      (judge m.request m.markers output, { m with attempts := m.attempts + 1 }) := by
  simp only [attempt, StateT.run_bind, StateT.run_get, StateT.run_set, StateT.run_monadLift,
    monadLift_self, bind_assoc, pure_bind]
  rfl

theorem attempt_acts (b : Backend σ) (p : WorkerProbe) :
    Sim.Acts b ((attempt b.endpoint).run p) fun result calls => ∃ opening,
      calls = [.openSession p.request opening] ∧
        result = (judge p.request p.markers (.ofOpening opening),
          { p with attempts := p.attempts + 1 }) := by
  rw [attempt_run]
  refine (Sim.exec_acts b p.request).bind_pure ?_
  rintro _ _ ⟨opening, rfl, rfl⟩
  exact ⟨_, rfl, opening, rfl, rfl⟩

theorem sampling_describes (b : Backend σ) (request : Exec.Request) (markers : List String) :
    (sampling request markers).Describes b (attempt b.endpoint) := by
  intro seen
  refine (attempt_acts b _).mono ?_
  rintro _ _ ⟨opening, rfl, rfl⟩
  refine ⟨opening, rfl, ?_⟩
  simp only [sampling, List.length_append, List.length_singleton]

end WorkerProbe

end BrokerRollout
