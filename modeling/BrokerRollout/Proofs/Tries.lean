import BrokerRollout.Proofs.Schedule

/-!
# What is done with a probe

A probe is used in single attempts and in polls, with pauses between them. To the world all that is
a list of tries, each of them one run of the attempt, with time that passes in between. Main
statements: what the tries of a poll and of a list of uses are (`Poll.run_tries`, `Use.all_tries`),
and their calls where each attempt makes the same one (`Probing.Asks.all_tries`).
-/

namespace BrokerRollout

variable {σ π ε α : Type} {b : Backend σ} {attempt : Probing π σ (Except ε α)} {p p' p'' : π}
  {w w' w'' : World σ} {tries more : List (List Call)}

/-- What may be done with a probe next. -/
inductive Use where
  | attempt
  | poll (window : Window)
  | pause (span : Nat)

namespace Use

def run (attempt : Probing π σ (Except ε α)) : Use → Probing π σ Unit
  | .attempt => do let _ ← attempt
  | .poll window => do let _ ← Poll.run window attempt
  | .pause span => (Sim.wait span : Sim σ Unit)

def all (attempt : Probing π σ (Except ε α)) : List Use → Probing π σ Unit
  | [] => pure ()
  | use :: uses => do
    run attempt use
    all attempt uses

end Use

/-- The runs of an attempt on the way from one state of a probe and its world to another, each by
the calls it made. Between two of them time may pass, and nothing else happens. -/
inductive Tries (attempt : Probing π σ (Except ε α)) :
    π → World σ → List (List Call) → π → World σ → Prop where
  | done {p : π} {w : World σ} : Tries attempt p w [] p w
  | pause {p p' : π} {w w' : World σ} {tries : List (List Call)} (t : Nat) (later : w.now ≤ t)
      (rest : Tries attempt p { w with now := t } tries p' w') : Tries attempt p w tries p' w'
  | next {p p' p'' : π} {w w' w'' : World σ} {tries : List (List Call)} {result : Except ε α}
      (ran : (attempt.run p).run w = ((result, p'), w')) (rest : Tries attempt p' w' tries p'' w'') :
      Tries attempt p w ((attempt.run p).callsOf w :: tries) p'' w''

namespace Tries

theorem append (first : Tries attempt p w tries p' w') (second : Tries attempt p' w' more p'' w'') :
    Tries attempt p w (tries ++ more) p'' w'' := by
  induction first with
  | done => exact second
  | pause t later _ ih => exact .pause t later (ih second)
  | next ran _ ih => exact .next ran (ih second)

theorem counted (h : Tries attempt p w tries p' w') (counter : π → Nat)
    (step : ∀ p w, counter ((attempt.run p).run w).1.2 = counter p + 1) :
    counter p' = counter p + tries.length := by
  induction h with
  | done => rfl
  | pause _ _ _ ih => exact ih
  | @next p p' _ w _ _ tries _ ran _ ih =>
    have one := step p w
    rw [ran] at one
    rw [ih, one, List.length_cons]
    omega

end Tries

namespace Poll

variable {window : Window} {start made : Nat} {ending : Ending ε α}

theorem Resumed.tried (h : Resumed window attempt start made p w ending p' w') :
    ∃ tries, Tries attempt p w tries p' w' ∧
      ∀ e, ending = .ok (.error e) → e.attempts = made + tries.length := by
  induction h with
  | held tried => exact ⟨_, .next tried .done, nofun⟩
  | exhausted tried closed =>
    refine ⟨_, .next tried .done, ?_⟩
    rintro _ ⟨⟩
    rfl
  | stranded tried => exact ⟨_, .next tried .done, nofun⟩
  | uncounted tried => exact ⟨_, .next tried (.pause _ (Nat.le_max_left ..) .done), nofun⟩
  | retried tried _ _ _ _ ih =>
    obtain ⟨tries, later, count⟩ := ih
    refine ⟨_, .next tried (.pause _ (Nat.le_max_left ..) later), fun e failed => ?_⟩
    rw [count e failed, List.length_cons]
    omega

theorem run_tries (ran : ((run window attempt).run p).run w = ((ending, p'), w')) :
    ∃ tries, Tries attempt p w tries p' w' ∧
      ∀ e, ending = .ok (.error e) → e.attempts = tries.length := by
  obtain ⟨tries, made, count⟩ := (run_resumed ran).tried
  simp only [Nat.zero_add] at count
  exact ⟨tries, made, count⟩

end Poll

namespace Use

theorem run_tries {use : Use} (ran : ((use.run attempt).run p).run w = (((), p'), w')) :
    ∃ tries, Tries attempt p w tries p' w' := by
  cases use with
  | attempt =>
    cases ran
    exact ⟨_, .next rfl .done⟩
  | poll window =>
    obtain ⟨⟨⟨ending, q⟩, v⟩, polled⟩ : ∃ out, ((Poll.run window attempt).run p).run w = out :=
      ⟨_, rfl⟩
    rw [run, StateT.run_bind, Sim.run_bind_of polled] at ran
    cases ran
    obtain ⟨tries, made, -⟩ := Poll.run_tries polled
    exact ⟨tries, made⟩
  | pause span =>
    cases ran
    exact ⟨[], .pause (w.now + span) (Nat.le_add_right ..) .done⟩

theorem all_tries {uses : List Use} (ran : ((all attempt uses).run p).run w = (((), p'), w')) :
    ∃ tries, Tries attempt p w tries p' w' := by
  induction uses generalizing p w with
  | nil =>
    cases ran
    exact ⟨[], .done⟩
  | cons use uses ih =>
    obtain ⟨⟨⟨⟨⟩, p₁⟩, w₁⟩, here⟩ : ∃ out, ((use.run attempt).run p).run w = out := ⟨_, rfl⟩
    rw [all, StateT.run_bind, Sim.run_bind_of here] at ran
    obtain ⟨tries, first⟩ := run_tries here
    obtain ⟨more, later⟩ := ih ran
    exact ⟨tries ++ more, first.append later⟩

end Use

/-! ### One call in each attempt -/

/-- Each of the tries has made one call, which asks for `asked`. -/
def OneEach (asked : Ask) (tries : List (List Call)) : Prop :=
  ∀ calls ∈ tries, ∃ c, calls = [c] ∧ c.ask = asked

theorem OneEach.length_flatten {asked : Ask} (one : OneEach asked tries) :
    tries.flatten.length = tries.length := by
  induction tries with
  | nil => rfl
  | cons calls tries ih =>
    obtain ⟨⟨c, rfl, -⟩, rest⟩ := List.forall_mem_cons.1 one
    simp [ih rest]

theorem OneEach.ask {asked : Ask} (one : OneEach asked tries) : ∀ c ∈ tries.flatten, c.ask = asked := by
  intro c member
  obtain ⟨calls, listed, here⟩ := List.mem_flatten.1 member
  obtain ⟨d, rfl, same⟩ := one calls listed
  rwa [List.mem_singleton.1 here]

/-- Every attempt of the probe makes one call, which asks the same every time. -/
def Probing.Asks (b : Backend σ) (attempt : Probing π σ (Except ε α)) (ask : π → Ask) : Prop :=
  ∀ p, Sim.Acts b (attempt.run p) fun result calls =>
    (∃ c, calls = [c] ∧ c.ask = ask p) ∧ ask result.2 = ask p

variable {ask : π → Ask}

theorem Tries.asks (asks : Probing.Asks b attempt ask) (h : Tries attempt p w tries p' w') :
    History b w tries.flatten w' ∧ OneEach (ask p) tries := by
  induction h with
  | done => exact ⟨.done, fun _ none => nomatch none⟩
  | pause t later _ ih => exact ⟨.pause t _ later ih.1, ih.2⟩
  | @next p p' _ w _ _ tries _ ran _ ih =>
    obtain ⟨one, same⟩ := (asks p).callsOf w
    have here := (asks p).history w
    rw [ran] at here same
    -- The probe asks the same after an attempt, and so the others ask what this one does.
    exact ⟨here.append ih.1, List.forall_mem_cons.2 ⟨one, same ▸ ih.2⟩⟩

theorem Probing.Asks.all_tries (asks : Probing.Asks b attempt ask) (uses : List Use) (p : π)
    (w : World σ) :
    let used := (Use.all attempt uses).run p
    ∃ tries, Tries attempt p w tries (used.run w).1.2 (used.run w).2 ∧
      History b w tries.flatten (used.run w).2 ∧ OneEach (ask p) tries := by
  intro used
  obtain ⟨⟨⟨⟨⟩, p'⟩, w'⟩, ran⟩ : ∃ out, used.run w = out := ⟨_, rfl⟩
  rw [ran]
  obtain ⟨tries, made⟩ := Use.all_tries ran
  exact ⟨tries, made, made.asks asks⟩

theorem ReadyProbe.attempt_asks (b : Backend σ) :
    Probing.Asks b (ReadyProbe.attempt b.store) fun p => .get p.cluster := by
  intro p
  refine (attempt_acts b p).mono ?_
  rintro _ _ ⟨answer, rfl, rfl⟩
  exact ⟨⟨_, rfl, rfl⟩, rfl⟩

theorem PersistedProbe.attempt_asks (b : Backend σ) :
    Probing.Asks b (PersistedProbe.attempt b.store) fun p => .get p.ref := by
  intro p
  refine (attempt_acts b p).mono ?_
  rintro _ _ ⟨answer, rfl, rfl⟩
  exact ⟨⟨_, rfl, rfl⟩, rfl⟩

theorem WorkerProbe.attempt_asks (b : Backend σ) :
    Probing.Asks b (WorkerProbe.attempt b.endpoint) fun p => .openSession p.request := by
  intro p
  refine (attempt_acts b p).mono ?_
  rintro _ _ ⟨opening, rfl, rfl⟩
  exact ⟨⟨_, rfl, rfl⟩, rfl⟩

end BrokerRollout
