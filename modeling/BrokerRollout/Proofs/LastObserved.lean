import BrokerRollout.Proofs.Course
import BrokerRollout.Proofs.Tries
import BrokerRollout.Store.Memory

/-!
# The count that was observed last

A probe for the ready workers of a cluster remembers what the last read that found the cluster
reported, whatever the reads since have come to. A wait of a run has a probe of its own, and so it
never tells a count of an earlier wait. Main statement: `last_observed`.
-/

namespace BrokerRollout

variable {σ : Type} {b : Backend σ}

theorem lastReady_cons (answer : ReadAnswer) (answers : List ReadAnswer) :
    lastReady (answer :: answers) = (lastReady answers).or answer.ready? := by
  rw [lastReady, lastReady]
  cases found : answer.ready? with
  | none => rw [List.filterMap_cons_none found, Option.or_none]
  | some n =>
    rw [List.filterMap_cons_some found, List.getLast?_cons]
    cases (answers.filterMap ReadAnswer.ready?).getLast? <;> rfl

theorem mem_of_lastReady {answers : List ReadAnswer} {n : Nat} (last : lastReady answers = some n) :
    ∃ answer ∈ answers, answer.ready? = some n :=
  List.mem_filterMap.1 (List.mem_of_getLast? last)

/-! ### Attempts -/

namespace ReadyProbe

variable {cluster : Ref} {expected : Nat} {answer : ReadAnswer} {error : NotConverged}
  {tries : List (List Call)} {p p' : ReadyProbe} {w w' : World σ}

theorem judge_observed {n : Nat} (failed : judge cluster expected answer = .error error)
    (observed : error.observedReady? = some n) : answer.ready? = some n := by
  rcases answer with e | _ | found
  · cases failed
    cases observed
  · cases failed
    cases observed
  · rw [judge_found] at failed
    split at failed
    · cases failed
    · cases failed
      exact observed

theorem judge_unexpected {n : Nat} (failed : judge cluster expected answer = .error error)
    (observed : answer.ready? = some n) : n ≠ expected := by
  rcases answer with e | _ | found
  · cases observed
  · cases observed
  · rintro rfl
    obtain rfl := Option.some.inj observed
    rw [judge_found, if_pos rfl] at failed
    cases failed

theorem tries_answers (h : Tries (attempt b.store) p w tries p' w') :
    ∃ answers : List ReadAnswer, tries.flatten = answers.map (.get p.cluster) ∧
      p' = { p with lastObserved := (lastReady answers).or p.lastObserved } := by
  induction h with
  | done => exact ⟨[], rfl, rfl⟩
  | pause _ _ _ ih => exact ih
  | @next p p' _ w _ _ _ _ ran _ ih =>
    obtain ⟨answer, calls, result⟩ := (attempt_acts b p).callsOf w
    rw [ran] at result
    obtain ⟨-, rfl⟩ := Prod.mk.inj result
    obtain ⟨answers, later, rfl⟩ := ih
    refine ⟨answer :: answers, ?_, ?_⟩
    · rw [List.flatten_cons, calls, later]
      rfl
    · rw [lastReady_cons, Option.or_assoc]
      rfl

variable {window : Window} {exhausted : Exhausted NotConverged} {answers : List ReadAnswer}

theorem lastReady_of_lastError {n : Nat}
    (ends : (sampling cluster expected).Ends window 0 (.error exhausted) answers)
    (observed : exhausted.lastError.observedReady? = some n) : lastReady answers = some n := by
  obtain ⟨vain, answer, error, elapsed, rfl, rfl, judged, -⟩ := ends.lastError
  rw [lastReady_concat, judge_observed judged observed, Option.some_or]

theorem lastReady_unexpected
    (ends : (sampling cluster expected).Ends window 0 (.error exhausted) answers) :
    lastReady answers ≠ some expected := by
  intro last
  obtain ⟨answer, member, observed⟩ := mem_of_lastReady last
  obtain ⟨error, judged⟩ : ∃ error, judge cluster expected answer = .error error := by
    cases ends with
    | exhausted before _ judged =>
      rcases List.mem_append.1 member with early | final
      · exact before answer early
      · exact ⟨_, List.mem_singleton.1 final ▸ judged⟩
  exact judge_unexpected judged observed rfl

end ReadyProbe

/-! ### Waits of a run -/

namespace Scenario

variable {t : Timing} {s : Settings} {p : Plan} {expected : Nat} {last : Option Nat}
  {exhausted : Exhausted NotConverged}

/-- The wait for the workers that a run has failed in. It began when the steps before were taken,
and what it says was observed last goes by its own reads. -/
structure TimedOut (t : Timing) (s : Settings) (p : Plan) (calls : List Call) (wanted : Nat)
    (last : Option Nat) (exhausted : Exhausted NotConverged) : Prop where
  wait : ∃ taken rest before answers cleaned, steps p s = taken ++ awaitWorkers p :: rest ∧
    Course t taken taken (.ok ()) before ∧
    calls = before ++ answers.map (.get p.cluster.ref) ++ cleaned ∧
    (∀ c ∈ cleaned, ∃ ref, c.ask = .delete ref) ∧
    exhausted.attempts = answers.length ∧ last = lastReady answers
  expected : wanted = p.cluster.replicas
  agrees : ∀ n, exhausted.lastError.observedReady? = some n → last = some n
  unmet : last ≠ some wanted

theorem Account.timedOut {taken : List Step} {outcome : Except Failure Unit}
    {driven cleaned : List Call} {report : Report}
    (a : Account t s p taken outcome driven cleaned report)
    (failed : report.failure = some (.convergenceTimeout expected last exhausted)) :
    TimedOut t s p (driven ++ cleaned) expected last exhausted := by
  rcases outcome with failure | ⟨⟩ <;> cases failed.symm.trans a.failure
  have drives := a.drives
  have valid : p.validate = .ok () := by
    cases drives with
    | valid sound => exact sound
  obtain ⟨step, rest, before, calls, place, rfl, course, does⟩ := drives.stopped valid
  have member : step ∈ steps p s := by simp [place]
  -- Only a wait for the workers ends in such a failure.
  rcases mem_steps member with ⟨_, _, rfl⟩ | rfl | ⟨_, _, rfl⟩ | ⟨_, rfl⟩ | ⟨_, _, rfl⟩
  · cases does
  · unfold awaitWorkers at does
    cases does with
    | unready ends =>
      exact ⟨⟨taken, rest, before, _, cleaned, place, course, rfl, fun _ => a.cleaned_asks,
        ends.attempts_eq, rfl⟩, rfl, fun _ => ReadyProbe.lastReady_of_lastError ends,
        ReadyProbe.lastReady_unexpected ends⟩
  · cases does
  · cases does
  · cases does

end Scenario

/-- What the probe of a cluster remembers, and what the waits of a run tell of it. -/
structure RemembersLast (b : Backend σ) : Prop where
  /-- A read that fails or finds nothing changes nothing, and a mismatch names what was read. -/
  attempt : ∀ (p : ReadyProbe) (w : World σ),
    let tried := (ReadyProbe.attempt b.store).run p
    ∃ answer : ReadAnswer, tried.callsOf w = [.get p.cluster answer] ∧
      (tried.run w).1.2.lastObserved = answer.ready?.or p.lastObserved ∧
      ∀ cluster expected n, (tried.run w).1.1 = .error (.readyMismatch cluster expected n) →
        (tried.run w).1.2.lastObserved = some n
  uses : ∀ cluster expected uses (w : World σ),
    let used := (Use.all (ReadyProbe.attempt b.store) uses).run { cluster, expected }
    ∃ answers : List ReadAnswer, used.callsOf w = answers.map (.get cluster) ∧
      (used.run w).1.2.lastObserved = lastReady answers
  waits : ∀ t s p (w : World σ) report expected last exhausted,
    ((Scenario.run b t s p).run w).1 = .ok report →
    report.failure = some (.convergenceTimeout expected last exhausted) →
    Scenario.TimedOut t s p ((Scenario.run b t s p).callsOf w) expected last exhausted

/-- Whatever is done with the probe of a cluster, it remembers the count of the last read that found
the cluster. A run that fails to see all workers tells that count of the wait it has failed in. -/
theorem last_observed (b : Backend σ) : RemembersLast b where
  attempt p w := by
    intro tried
    obtain ⟨answer, calls, result⟩ := (ReadyProbe.attempt_acts b p).callsOf w
    have after : (tried.run w).1.2 = p.remember answer := congrArg Prod.snd result
    refine ⟨answer, calls, congrArg ReadyProbe.lastObserved after, fun cluster expected n failed => ?_⟩
    have judged := (congrArg Prod.fst result).symm.trans failed
    rw [after, ReadyProbe.remember, ReadyProbe.judge_observed judged rfl]
    rfl
  uses cluster expected uses w := by
    intro used
    obtain ⟨tries, made, past, -⟩ :=
      (ReadyProbe.attempt_asks b).all_tries uses { cluster, expected } w
    obtain ⟨answers, calls, last⟩ := ReadyProbe.tries_answers made
    refine ⟨answers, (Sim.callsOf_eq past).trans calls, ?_⟩
    rw [show (used.run w).1.2 = _ from last, Option.or_none]
  waits t s p w report expected last exhausted reported failed := by
    obtain ⟨taken, outcome, driven, cleaned, made, account⟩ :=
      Scenario.run_account b t s p reported
    rw [made]
    exact account.timedOut failed

/-- A cluster is seen with all its workers, and has lost one when they are waited for again. -/
theorem last_observed_stalled :
    let p := Plan.addressRollout "broker"
    let b : Backend MemoryStore := ⟨MemoryStore.store, .offline⟩
    let w : World MemoryStore := { state := MemoryStore.scriptRollout p.cluster.ref [1, 5, 4] {} }
    let stalled : Exhausted NotConverged :=
      ⟨.readyMismatch p.cluster.ref 5 4, 11, 10 * Time.perSecond⟩
    ∃ report, ((Scenario.run b .brief .live p).run w).1 = .ok report ∧
      report.failure = some (.convergenceTimeout 5 (some 4) stalled) ∧
      Scenario.TimedOut .brief .live p ((Scenario.run b .brief .live p).callsOf w) 5 (some 4)
        stalled := by
  intro p b w stalled
  have failed : ((Scenario.run b .brief .live p).run w).1.toOption.bind Scenario.Report.failure =
      some (.convergenceTimeout 5 (some 4) stalled) := by
    decide +kernel
  cases reported : ((Scenario.run b .brief .live p).run w).1 with
  | error panic =>
    rw [reported] at failed
    cases failed
  | ok report =>
    rw [reported] at failed
    exact ⟨report, rfl, failed,
      (last_observed b).waits _ _ _ _ _ _ _ _ reported failed⟩

end BrokerRollout
