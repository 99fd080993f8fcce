import BrokerRollout.Proofs.Course
import BrokerRollout.Proofs.Schedule

/-!
# Windows beyond the clock and the count

A poll panics when it comes to a slot that no clock reaches, or to one attempt more than are counted.
So a panic tells that some window is too long for the time at which it is waited for, or has too many
slots (`Timing.Overruns`); every other run returns a report. Main statement: `run_overruns`.
-/

namespace BrokerRollout

variable {σ π ε α : Type}

/-- By a poll that begins no later than `now` the window may have slots that no clock reaches, or too
many of them to be counted. -/
def Window.Overruns (w : Window) (now : Nat) : Prop :=
  Window.maxCount ≤ w.slots ∨ Time.limit ≤ now + w.timeout.nanos

instance (w : Window) (now : Nat) : Decidable (w.Overruns now) := instDecidableOr

def Timing.Overruns (t : Timing) (now : Nat) : Prop :=
  t.convergence.Overruns now ∨ t.persistence.Overruns now ∨ t.worker.Overruns now

instance (t : Timing) (now : Nat) : Decidable (t.Overruns now) := instDecidableOr

theorem Window.Overruns.mono {w : Window} {now later : Nat} (h : w.Overruns now) (le : now ≤ later) :
    w.Overruns later := by
  unfold Window.Overruns at *
  omega

theorem Timing.Overruns.mono {t : Timing} {now later : Nat} (h : t.Overruns now) (le : now ≤ later) :
    t.Overruns later :=
  h.imp (·.mono le) (·.imp (·.mono le) (·.mono le))

theorem Poll.run_overruns {w : Window} {attempt : Probing π σ (Except ε α)} {m m' : π}
    {world after : World σ} {panic : Panic} (forward : attempt.Forward)
    (ran : ((run w attempt).run m).run world = ((.error panic, m'), after)) :
    w.Overruns after.now := by
  obtain ⟨log, final, made, paced, left⟩ := (run_resumed ran).paced forward (Nat.le_refl _)
  obtain ⟨last, place, ends⟩ := paced.conclusion
  rw [Nat.zero_add] at ends
  cases ends with
  | stranded _ opened beyond =>
    have offered : log.length ≤ w.slots := by
      unfold Window.Closed at opened
      omega
    have slot := Window.le_slots_iff.1 offered
    have ended := made.ended last place
    rw [← left nofun] at ended
    unfold Reached at beyond
    exact .inr (by omega)
  | uncounted _ opened _ full =>
    unfold Window.Closed at opened
    exact .inl (by omega)

namespace Scenario

variable {b : Backend σ} {t : Timing} {s : Settings} {p : Plan} {r r' : Report} {w after : World σ}
  {panic : Panic}

theorem waited_panics {fail : Exhausted ε → Failure} {ended : Poll.Ending ε α}
    (panics : waited fail ended = .error panic) : ended = .error panic := by
  rcases ended with _ | _ | _ <;> cases panics
  rfl

/-- What follows a poll at once panics right after it. -/
theorem poll_panics {poll : Sim σ (Poll.Ending ε α × π)}
    {f : Poll.Ending ε α × π → Except Panic (Except Failure Unit) × Report}
    (only : ∀ polled, (f polled).1 = .error panic → polled.1 = .error panic)
    (ran : (poll >>= fun polled => pure (f polled)).run w = ((.error panic, r'), after)) :
    ∃ m, poll.run w = ((.error panic, m), after) := by
  obtain ⟨⟨⟨ended, m⟩, polled⟩, came⟩ : ∃ out, poll.run w = out := ⟨_, rfl⟩
  rw [Sim.run_bind_of came] at ran
  obtain ⟨result, rfl⟩ := Prod.mk.inj ran
  obtain rfl : ended = .error panic := only (ended, m) (congrArg Prod.fst result)
  exact ⟨m, came⟩

theorem take_overruns {step : Step}
    (ran : ((take b t step).run r).run w = ((.error panic, r'), after)) : t.Overruns after.now := by
  cases step with
  | submit resource =>
    rw [take_submit] at ran
    obtain ⟨⟨answer, created⟩, came⟩ : ∃ out, (Sim.create b.store resource).run w = out := ⟨_, rfl⟩
    rw [Sim.run_bind_of came] at ran
    rcases answer with e | ⟨⟩ <;> cases ran
  | awaitReady cluster expected =>
    rw [take_awaitReady] at ran
    obtain ⟨m, polled⟩ := poll_panics (fun _ => waited_panics) ran
    exact .inl (Poll.run_overruns (fun m => (ReadyProbe.attempt_acts b m).forward) polled)
  | awaitPersisted ref =>
    rw [take_awaitPersisted] at ran
    obtain ⟨m, polled⟩ := poll_panics (fun _ => waited_panics) ran
    exact .inr (.inl (Poll.run_overruns (fun m => (PersistedProbe.attempt_acts b m).forward) polled))
  | enter phase => cases ran
  | checkWorker request markers =>
    rw [take_checkWorker] at ran
    obtain ⟨m, polled⟩ := poll_panics (fun _ => waited_panics) ran
    exact .inr (.inr (Poll.run_overruns (fun m => (WorkerProbe.attempt_acts b m).forward) polled))

theorem takeAll_overruns {planned : List Step}
    (ran : ((takeAll b t planned).run r).run w = ((.error panic, r'), after)) :
    t.Overruns after.now := by
  induction planned generalizing r w with
  | nil => cases ran
  | cons step rest ih =>
    obtain ⟨⟨⟨ended, recorded⟩, taken⟩, took⟩ : ∃ out, ((take b t step).run r).run w = out :=
      ⟨_, rfl⟩
    rw [takeAll, StateT.run_bind, Sim.run_bind_of took] at ran
    rcases ended with panic | failure | ⟨⟩
    · cases ran
      exact take_overruns took
    · cases ran
    · exact ih ran

/-- A run that panics has come to a wait with a window that is too long or too wide. -/
theorem run_overruns (ran : (run b t s p).run w = (.error panic, after)) :
    t.Overruns after.now := by
  obtain ⟨⟨⟨ended, report⟩, driven⟩, drove⟩ : ∃ out, ((drive b t s p).run {}).run w = out := ⟨_, rfl⟩
  rw [run_eq, Sim.run_bind_of drove] at ran
  cases ended with
  | ok outcome => cases ran
  | error panic =>
    cases ran
    unfold drive at drove
    cases validated : p.validate with
    | error e =>
      rw [validated] at drove
      cases drove
    | ok _ =>
      rw [validated] at drove
      exact takeAll_overruns drove

/-- What holds of the report of a run, unless the run has panicked over one of its windows. -/
def Reports (t : Timing) (ended : Except Panic Report × World σ) (Q : Report → Prop) : Prop :=
  match ended.1 with
  | .ok report => Q report
  | .error _ => t.Overruns ended.2.now

theorem reports_of {Q : Report → Prop}
    (holds : ∀ report, ((run b t s p).run w).1 = .ok report → Q report) :
    Reports t ((run b t s p).run w) Q := by
  obtain ⟨⟨panic | report, after⟩, ran⟩ : ∃ out, (run b t s p).run w = out := ⟨_, rfl⟩
  · rw [ran]
    exact run_overruns ran
  · rw [ran] at holds ⊢
    exact holds report rfl

theorem Reports.of_ok {Q : Report → Prop} {ended : Except Panic Report × World σ} {report : Report}
    (h : Reports t ended Q) (reported : ended.1 = .ok report) : Q report := by
  unfold Reports at h
  rwa [reported] at h

/-- A run returns if none of its windows is too long or too wide by the time it ends. -/
theorem Reports.exists {Q : Report → Prop} {ended : Except Panic Report × World σ}
    (h : Reports t ended Q) (fits : ¬t.Overruns ended.2.now) :
    ∃ report, ended.1 = .ok report ∧ Q report := by
  unfold Reports at h
  split at h
  case h_1 report same => exact ⟨report, same, h⟩
  case h_2 => exact absurd h fits

end Scenario

end BrokerRollout
