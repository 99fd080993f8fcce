import BrokerRollout.Plan
import BrokerRollout.Proofs.Manifests
import BrokerRollout.Proofs.Polling
import BrokerRollout.Proofs.Requests

/-!
# What counts as persisted

A look for a persisted resource compares the name that was asked for with that of the observation.
The observation from an API server is made out under the name that was asked for, so the look
passes with every object whose status can be read. Main statement: `Kube.persisted_iff`.
-/

namespace BrokerRollout

variable {σ : Type}

namespace PersistedProbe

theorem attempt_result (s : Store σ) (ref : Ref) (w : World σ) :
    (((attempt s).run { ref }).run w).1.1 = judge ref (s.get ref w.now w.state).answer := by
  rw [attempt_run]
  rfl

/-- A look finds a name that does not match just if it is another than was asked for. -/
theorem judge_mismatch {ref : Ref} {answer : ReadAnswer} {name : String} :
    judge ref answer = .error (.nameMismatch ref name) ↔
      ∃ found, answer = .ok (some found) ∧ found.ref.name = name ∧ name ≠ ref.name := by
  rcases answer with e | _ | other
  · exact iff_of_false nofun nofun
  · exact iff_of_false nofun nofun
  · rw [judge_found]
    by_cases same : other.ref.name = ref.name
    · rw [if_pos same]
      refine iff_of_false nofun ?_
      rintro ⟨_, ⟨⟩, rfl, apart⟩
      exact apart same
    · rw [if_neg same]
      constructor
      · rintro ⟨⟩
        exact ⟨other, rfl, rfl, same⟩
      · rintro ⟨_, ⟨⟩, rfl, -⟩
        rfl

end PersistedProbe

namespace Kube

/-- The observation is that of the resource that was asked for. -/
theorem observe_ok_iff {ref : Ref} {object : Json} {found : Store.Observation} :
    observe ref object = .ok found ↔
      ∃ ready, readyWorkers object = .ok ready ∧
        found = { ref, ready, version := version object } := by
  rw [observe]
  cases readyWorkers object with
  | error reason => simp
  | ok ready => simp [eq_comm]

theorem get_ok_iff (t : Transport σ) {ref : Ref} {now : Nat} {state : σ}
    {found : Store.Observation} :
    ((store t).get ref now state).answer = .ok (some found) ↔
      ∃ request object, getRequest ref = .ok request ∧
        documentOf Schema.object (t.send request now state).answer = .ok object ∧
        observe ref object = .ok found := by
  show (answerTo t (getRequest ref) (Kube.found ref) now state).answer = _ ↔ _
  cases getRequest ref with
  | error e => simp [answerTo]
  | ok request =>
    simp only [Except.ok.injEq, exists_and_left, exists_eq_left']
    show Kube.found ref (t.send request now state).answer = _ ↔ _
    rw [Kube.found]
    cases documentOf Schema.object (t.send request now state).answer with
    | error e =>
      dsimp only
      split <;> simp
    | ok object =>
      simp only [Except.ok.injEq, exists_eq_left']
      cases observe ref object <;> simp [Except.map]

theorem attempt_ok_iff (t : Transport σ) {ref : Ref} {w : World σ} {found : Store.Observation} :
    (((PersistedProbe.attempt (store t)).run { ref }).run w).1.1 = .ok found ↔
      ∃ request object ready, getRequest ref = .ok request ∧
        documentOf Schema.object (t.send request w.now w.state).answer = .ok object ∧
        readyWorkers object = .ok ready ∧ found = { ref, ready, version := version object } := by
  rw [PersistedProbe.attempt_result, PersistedProbe.judge_eq_ok_iff, get_ok_iff]
  simp only [observe_ok_iff]
  constructor
  · rintro ⟨⟨request, object, sent, read, ready, listed, made⟩, -⟩
    exact ⟨request, object, ready, sent, read, listed, made⟩
  · rintro ⟨request, object, ready, sent, read, listed, rfl⟩
    exact ⟨⟨request, object, sent, read, ready, listed, rfl⟩, rfl⟩

/-- The name that a look compares is the one that it asked for. -/
theorem attempt_matches (t : Transport σ) (ref : Ref) (w : World σ) (name : String) :
    (((PersistedProbe.attempt (store t)).run { ref }).run w).1.1 ≠
      .error (.nameMismatch ref name) := by
  rw [PersistedProbe.attempt_result]
  intro mismatch
  obtain ⟨found, answered, rfl, apart⟩ := PersistedProbe.judge_mismatch.1 mismatch
  obtain ⟨_, _, -, -, observed⟩ := (get_ok_iff t).1 answered
  obtain ⟨_, -, rfl⟩ := observe_ok_iff.1 observed
  exact apart rfl

/-- A look at a resource of an API server passes just if an object comes back whose status can be
read. What it then passes with has the name that was asked for, whatever the object's own name is,
and so no look ever finds a name that does not match. -/
theorem persisted_iff (t : Transport σ) (ref : Ref) (w : World σ) :
    let result := (((PersistedProbe.attempt (store t)).run { ref }).run w).1.1
    (∀ found, result = .ok found ↔ ∃ request object ready, getRequest ref = .ok request ∧
      documentOf Schema.object (t.send request w.now w.state).answer = .ok object ∧
      readyWorkers object = .ok ready ∧ found = { ref, ready, version := version object }) ∧
    ∀ name, result ≠ .error (.nameMismatch ref name) :=
  ⟨fun _ => attempt_ok_iff t, attempt_matches t ref w⟩

/-- The server sends one address for another, and the look passes. -/
theorem persisted_otherName :
    let ref := (Plan.rolloutAddress "default" 0).ref
    let sent := Resource.address (Plan.rolloutAddress "default" 1)
    let t : Transport Unit := {
      send := fun _ _ state => { answer := .ok ⟨200, Text.utf8 sent.manifest.compact⟩, state }
      upgrade := fun _ _ state => { answer := .error "", state } }
    sent.manifest.path? ["metadata", "name"] = some "ex-aaoaddress1" ∧ ref.name = "ex-aaoaddress0" ∧
      (((PersistedProbe.attempt (store t)).run { ref }).run { state := () }).1.1 =
        .ok { ref, ready := [], version := none } := by
  intro ref sent t
  refine ⟨rfl, rfl, (attempt_ok_iff t).2 ?_⟩
  have narrow : sent.Narrow := trivial
  have request := getRequest_ok (r := ref) (by decide)
  exact ⟨_, _, [], request, documentOf_manifest narrow (by decide), readyWorkers_manifest sent, rfl⟩

end Kube

end BrokerRollout
