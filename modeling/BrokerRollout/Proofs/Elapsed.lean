import BrokerRollout.Proofs.Course
import BrokerRollout.Proofs.Durations

/-!
# Elapsed times in the journal

A failed wait reports how long it has lasted. `Sim.Logs` says what holds of the result of an activity,
of its entries in the journal and of the times at which it begins and ends, with one rule for each
way to build one. Main statement: what a failure tells of its time is the time from the beginning of
the first call of the step that failed to the end of the last one (`run_stopped`).
-/

namespace BrokerRollout

variable {σ π ε α β : Type}

/-- When all that a call brings is there: with the end of the session that it opens. -/
def Entry.over (e : Entry) : Nat := e.ended + e.call.lasted

/-- The time from the beginning of the first call to the end of the last. -/
def Spans (entries : List Entry) (elapsed : Nat) : Prop :=
  ∃ first last, entries.head? = some first ∧ entries.getLast? = some last ∧
    elapsed = last.over - first.began

namespace Sim

/-- `Q` holds of the result, the entries in the journal and the times of the activity. -/
def Logs (x : Sim σ α) (Q : α → List Entry → Nat → Nat → Prop) : Prop :=
  ∀ w, ∃ entries, (x.run w).2.journal = w.journal ++ entries ∧
    Q (x.run w).1 entries w.now (x.run w).2.now

namespace Logs

variable {x : Sim σ α} {P Q : α → List Entry → Nat → Nat → Prop}

theorem mono (h : Logs x P)
    (weaker : ∀ a entries began ended, P a entries began ended → Q a entries began ended) :
    Logs x Q := by
  intro w
  obtain ⟨entries, grown, holds⟩ := h w
  exact ⟨entries, grown, weaker _ _ _ _ holds⟩

theorem pure {a : α} (h : ∀ now, Q a [] now now) : Logs (Pure.pure a : Sim σ α) Q :=
  fun w => ⟨[], (List.append_nil w.journal).symm, h w.now⟩

theorem bind {f : α → Sim σ β} {Q : β → List Entry → Nat → Nat → Prop} (first : Logs x P)
    (next : ∀ a entries began middle, P a entries began middle → Logs (f a) fun c more now ended =>
      now = middle → Q c (entries ++ more) began ended) : Logs (x >>= f) Q := by
  intro w
  obtain ⟨entries, grown, holds⟩ := first w
  obtain ⟨more, later, result⟩ := next _ _ _ _ holds (x.run w).2
  refine ⟨entries ++ more, ?_, result rfl⟩
  rw [← List.append_assoc, ← grown]
  exact later

theorem bind_pure {f : α → Sim σ β} {Q : β → List Entry → Nat → Nat → Prop} (first : Logs x P)
    (next : ∀ a entries began ended, P a entries began ended →
      ∃ c, f a = Pure.pure c ∧ Q c entries began ended) : Logs (x >>= f) Q := by
  refine first.bind fun a entries began middle holds => ?_
  obtain ⟨c, same, result⟩ := next a entries began middle holds
  rw [same]
  refine Logs.pure ?_
  rintro now rfl
  rwa [List.append_nil]

/-- The calls are those of the activity's history. -/
theorem and_acts {b : Backend σ} {P : α → List Call → Prop} (h : Logs x Q) (acts : Acts b x P) :
    Logs x fun a entries began ended => P a (entries.map Entry.call) ∧ Q a entries began ended := by
  intro w
  obtain ⟨entries, grown, holds⟩ := h w
  obtain ⟨calls, past, acted⟩ := acts w
  obtain ⟨entries', grown', rfl⟩ := past.journal
  obtain rfl : entries' = entries := List.append_cancel_left (grown'.symm.trans grown)
  exact ⟨entries', grown', acted, holds⟩

theorem entriesOf (h : Logs x Q) (w : World σ) :
    Q (x.run w).1 (x.entriesOf w) w.now (x.run w).2.now := by
  obtain ⟨entries, grown, holds⟩ := h w
  rwa [Sim.entriesOf, grown, List.drop_left]

end Logs

/-- The activity makes one call, and takes as long as all that it brings. -/
def LogsOne (x : Sim σ α) : Prop :=
  Logs x fun _ entries began ended => ∃ e : Entry, entries = [e] ∧ e.began = began ∧ e.over = ended

theorem LogsOne.bind_pure {x : Sim σ α} {f : α → Sim σ β} (one : LogsOne x)
    (next : ∀ a, ∃ c, f a = Pure.pure c) : LogsOne (x >>= f) := by
  unfold LogsOne at *
  refine one.bind_pure fun a _ _ _ single => ?_
  obtain ⟨c, same⟩ := next a
  exact ⟨c, same, single⟩

theorem read_logs (s : Store σ) (ref : Ref) : LogsOne (read s ref) :=
  fun _ => ⟨[_], rfl, _, rfl, rfl, rfl⟩

theorem exec_logs (e : Exec.Endpoint σ) (request : Exec.Request) : LogsOne (exec e request) := by
  intro w
  let reply := e.openSession request w.now w.state
  let entry : Entry := ⟨.openSession request reply.answer, w.now, w.now + reply.took, reply.sent⟩
  have grown : ((exec e request).run w).2.journal = w.journal ++ [entry] := by
    rw [exec_run, World.over_journal]
    rfl
  refine ⟨[entry], grown, entry, rfl, rfl, ?_⟩
  rw [exec_run, World.over_now, Entry.over, Call.lasted_openSession]
  rfl

end Sim

namespace Poll

variable {attempt : Probing π σ (Except ε α)}

/-- An exhausted poll has lasted until its last attempt was over. -/
theorem Resumed.logs {start made : Nat} {w : Window} {m m' : π} {world after : World σ}
    {ending : Ending ε α} (h : Resumed w attempt start made m world ending m' after)
    (single : ∀ m, Sim.LogsOne (attempt.run m)) :
    ∃ first more, after.journal = world.journal ++ first :: more ∧ first.began = world.now ∧
      ∀ exhausted, ending = .ok (.error exhausted) →
        ∃ last, (first :: more).getLast? = some last ∧ exhausted.elapsed = last.over - start := by
  have tried {m m' : π} {world after : World σ} {result : Except ε α}
      (ran : (attempt.run m).run world = ((result, m'), after)) :
      ∃ e : Entry, after.journal = world.journal ++ [e] ∧ e.began = world.now ∧
        e.over = after.now := by
    obtain ⟨_, grown, e, rfl, began, ended⟩ := single m world
    rw [ran] at grown ended
    exact ⟨e, grown, began, ended⟩
  induction h with
  | held ran =>
    obtain ⟨e, grown, began, -⟩ := tried ran
    exact ⟨e, [], grown, began, nofun⟩
  | exhausted ran closed =>
    obtain ⟨e, grown, began, ended⟩ := tried ran
    refine ⟨e, [], grown, began, ?_⟩
    rintro _ ⟨⟩
    exact ⟨e, rfl, ended ▸ rfl⟩
  | stranded ran =>
    obtain ⟨e, grown, began, -⟩ := tried ran
    exact ⟨e, [], grown, began, nofun⟩
  | uncounted ran =>
    obtain ⟨e, grown, began, -⟩ := tried ran
    exact ⟨e, [], grown, began, nofun⟩
  | retried ran _ _ _ _ ih =>
    obtain ⟨e, grown, began, -⟩ := tried ran
    obtain ⟨first, more, later, -, ends⟩ := ih
    refine ⟨e, first :: more, ?_, began, fun exhausted came => ?_⟩
    · rw [later, awake, grown, List.append_assoc]
      rfl
    · rw [List.getLast?_cons_cons]
      exact ends exhausted came

theorem run_logs (single : ∀ m, Sim.LogsOne (attempt.run m)) (w : Window) (m : π) :
    Sim.Logs ((run w attempt).run m) fun result entries _ _ =>
      ∀ exhausted, result.1 = .ok (.error exhausted) → Spans entries exhausted.elapsed := by
  intro world
  obtain ⟨first, more, grown, began, ends⟩ := (run_resumed rfl).logs single
  refine ⟨first :: more, grown, fun exhausted came => ?_⟩
  obtain ⟨last, place, elapsed⟩ := ends exhausted came
  exact ⟨first, last, rfl, place, began ▸ elapsed⟩

end Poll

theorem ReadyProbe.attempt_logs (s : Store σ) (m : ReadyProbe) :
    Sim.LogsOne ((attempt s).run m) := by
  rw [attempt_run]
  exact (Sim.read_logs s m.cluster).bind_pure fun _ => ⟨_, rfl⟩

theorem PersistedProbe.attempt_logs (s : Store σ) (m : PersistedProbe) :
    Sim.LogsOne ((attempt s).run m) := by
  rw [attempt_run]
  exact (Sim.read_logs s m.ref).bind_pure fun _ => ⟨_, rfl⟩

theorem WorkerProbe.attempt_logs (e : Exec.Endpoint σ) (m : WorkerProbe) :
    Sim.LogsOne ((attempt e).run m) := by
  rw [attempt_run]
  exact (Sim.exec_logs e m.request).bind_pure fun _ => ⟨_, rfl⟩

namespace Scenario

variable {b : Backend σ} {t : Timing} {s : Settings} {p : Plan}

/-- What a failure tells of the time it took. -/
def Failure.elapsed? : Failure → Option Nat
  | .notPersisted _ exhausted | .convergenceTimeout _ _ exhausted => some exhausted.elapsed
  | .workerVerification _ exhausted => some exhausted.elapsed
  | .invalidPlan _ | .submission .. => none

/-- What the failure tells of the time is so by the entries of the step that failed. -/
def Failure.Timed (failure : Failure) (entries : List Entry) : Prop :=
  ∀ elapsed ∈ failure.elapsed?, Spans entries elapsed

/-- A step that waits fails with the elapsed time of its poll. -/
theorem waited_timed {ending : Poll.Ending ε α} {fail : Exhausted ε → Failure}
    {entries : List Entry}
    (spans : ∀ exhausted, ending = .ok (.error exhausted) → Spans entries exhausted.elapsed)
    (tells : ∀ exhausted, (fail exhausted).elapsed? = some exhausted.elapsed) :
    ∀ failure, waited fail ending = .ok (.error failure) → failure.Timed entries := by
  rintro failure failed elapsed told
  rcases ending with _ | exhausted | _ <;> cases failed
  rw [tells] at told
  cases told
  exact spans exhausted rfl

theorem take_logs (b : Backend σ) (t : Timing) (step : Step) (r : Report) :
    Sim.Logs ((take b t step).run r) fun result entries _ _ =>
      ∀ failure, result.1 = .ok (.error failure) → failure.Timed entries := by
  cases step with
  | submit resource =>
    rw [take_submit]
    have creates : Sim.Logs (Sim.create b.store resource) fun _ _ _ _ => True :=
      fun _ => ⟨[_], rfl, trivial⟩
    refine creates.bind_pure fun answer entries _ _ _ => ⟨_, rfl, fun failure failed => ?_⟩
    rcases answer with e | ⟨⟩ <;> cases failed
    exact nofun
  | awaitReady cluster expected =>
    rw [take_awaitReady]
    have polled := Poll.run_logs (ReadyProbe.attempt_logs b.store) t.convergence
    exact (polled _).bind_pure fun _ _ _ _ spans =>
      ⟨_, rfl, waited_timed spans fun _ => rfl⟩
  | awaitPersisted ref =>
    rw [take_awaitPersisted]
    have polled := Poll.run_logs (PersistedProbe.attempt_logs b.store) t.persistence
    exact (polled _).bind_pure fun _ _ _ _ spans =>
      ⟨_, rfl, waited_timed spans fun _ => rfl⟩
  | enter phase =>
    refine Sim.Logs.pure fun _ => ?_
    rintro _ ⟨⟩
  | checkWorker request markers =>
    rw [take_checkWorker]
    have polled := Poll.run_logs (WorkerProbe.attempt_logs b.endpoint) t.worker
    exact (polled _).bind_pure fun _ _ _ _ spans =>
      ⟨_, rfl, waited_timed spans fun _ => rfl⟩

/-- A run has taken these steps and then failed, with these entries in the journal. -/
inductive Stopped (t : Timing) (planned taken : List Step) (failure : Failure) :
    List Entry → Prop where
  | intro {step : Step} {rest : List Step} {before last : List Entry}
      (place : planned = taken ++ step :: rest)
      (course : Course t taken taken (.ok ()) (before.map Entry.call))
      (fails : step.Does t (.error failure) (last.map Entry.call)) (timed : failure.Timed last) :
      Stopped t planned taken failure (before ++ last)

theorem takeAll_logs (b : Backend σ) (t : Timing) (planned : List Step) (r : Report) :
    Sim.Logs ((takeAll b t planned).run r) fun result entries _ _ =>
      ∀ failure, result.1 = .ok (.error failure) →
        ∃ taken, Stopped t planned taken failure entries ∧ result.2 = r.record taken := by
  induction planned generalizing r with
  | nil =>
    refine Sim.Logs.pure fun _ => ?_
    rintro _ ⟨⟩
  | cons step rest ih =>
    rw [takeAll, StateT.run_bind]
    refine ((take_logs b t step r).and_acts (take_acts b t step r)).bind ?_
    rintro ⟨panic | failure | ⟨⟩, recorded⟩ entries _ _ ⟨⟨comes, same⟩, timed⟩
    · refine Sim.Logs.pure fun _ _ => ?_
      rintro _ ⟨⟩
    · refine Sim.Logs.pure fun _ _ => ?_
      rintro _ ⟨⟩
      have stopped : Stopped t (step :: rest) [] failure ([] ++ entries) :=
        .intro rfl .arrived comes (timed failure rfl)
      exact ⟨[], by simpa using stopped, same.trans r.record_nil.symm⟩
    · obtain rfl : recorded = step.record r := same
      refine (ih (step.record r)).mono fun result more _ _ later _ failure failed => ?_
      obtain ⟨taken, ⟨rfl, course, fails, timed⟩, recorded⟩ := later failure failed
      refine ⟨step :: taken, ?_, recorded.trans (r.record_cons step taken).symm⟩
      rw [← List.append_assoc]
      refine .intro rfl ?_ fails timed
      rw [List.map_append]
      exact .passed comes course

theorem drive_unfailed {w after : World σ} {ended : Except Panic (Except Failure Unit)}
    {left : Report} (drives : ((drive b t s p).run {}).run w = ((ended, left), after)) :
    left.failure = none := by
  obtain ⟨_, -, taken, -, recorded⟩ := drive_acts b t s p {} w
  rw [drives] at recorded
  exact congrArg Report.failure recorded

/-- A run of a valid plan that fails has entries for the steps it has taken, for the one that failed,
and for its clean-up. -/
theorem run_stopped (b : Backend σ) (t : Timing) (s : Settings) (p : Plan) (w : World σ)
    (valid : p.validate = .ok ()) {report : Report} {failure : Failure}
    (reported : ((run b t s p).run w).1 = .ok report) (failed : report.failure = some failure) :
    ∃ taken driven cleaned, (run b t s p).entriesOf w = driven ++ cleaned ∧
      Stopped t (steps p s) taken failure driven ∧
      report.created = taken.filterMap Step.ref? ∧
      report.verifiedWorkers = taken.filterMap Step.worker? ∧
      (cleaned.map Entry.call).map Call.ask = report.created.reverse.map .delete := by
  obtain ⟨entries, grown, driven⟩ := takeAll_logs b t (steps p s) {} w
  obtain ⟨⟨⟨ended, left⟩, after⟩, drove⟩ :
      ∃ out, ((takeAll b t (steps p s)).run {}).run w = out := ⟨_, rfl⟩
  rw [drove] at grown driven
  have drives : ((drive b t s p).run {}).run w = ((ended, left), after) := by
    rw [drive, valid]
    exact drove
  cases ended with
  | error panic =>
    rw [run_eq, Sim.run_bind_of drives] at reported
    cases reported
  | ok outcome =>
    have unfailed : left.failure = none := drive_unfailed drives
    obtain ⟨calls, past, asked, final⟩ := finish_acts b outcome unfailed after
    obtain ⟨cleaned, later, rfl⟩ := past.journal
    obtain ⟨⟨⟨⟨⟩, concluded⟩, finished⟩, came⟩ :
        ∃ out, ((finish b outcome).run left).run after = out := ⟨_, rfl⟩
    rw [came] at later final
    have whole : (run b t s p).run w = (.ok concluded, finished) := by
      rw [run_eq, Sim.run_bind_of drives]
      dsimp only
      rw [Sim.run_bind_of came]
      rfl
    rw [whole] at reported
    cases reported
    obtain rfl : report = (left.conclude outcome).recordDeletions (cleaned.map Entry.call) := final
    obtain rfl : outcome = .error failure := by
      rcases outcome with _ | ⟨⟩ <;> cases failed
      rfl
    obtain ⟨taken, stopped, rfl : left = _⟩ := driven failure rfl
    refine ⟨taken, entries, cleaned, ?_, stopped, rfl, rfl, asked⟩
    rw [Sim.entriesOf, whole, later, grown, List.append_assoc, List.drop_left]

end Scenario

end BrokerRollout
