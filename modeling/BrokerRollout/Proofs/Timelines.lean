import BrokerRollout.Proofs.Punctual
import BrokerRollout.Store.Timeline
import Mathlib.Control.Monad.Basic

/-!
# Polls of a store that others work on

A poll looks at the store at its slots, and nowhere else: what others do between two slots shows by
no more than what is left of it. What a read finds is told by one history, in which the reads so far
stand among the operations of the others. Main statement: `ReadyProbe.run_timeline`.
-/

namespace BrokerRollout

theorem dropWhile_dropWhile {α : Type} {p q : α → Bool} (weaker : ∀ x, p x → q x) (l : List α) :
    (l.dropWhile p).dropWhile q = l.dropWhile q := by
  induction l with
  | nil => rfl
  | cons x l ih =>
    cases held : p x with
    | false => rw [List.dropWhile_cons_of_neg (by simp [held])]
    | true =>
      rw [List.dropWhile_cons_of_pos held, List.dropWhile_cons_of_pos (weaker x held), ih]

theorem MemoryStore.run_append (m : MemoryStore) (ops later : List Op) :
    (m.run (ops ++ later)).2 = ((m.run ops).2.run later).2 := by
  induction ops generalizing m with
  | nil => rfl
  | cons op ops ih => exact ih (m.step op).2

namespace Timeline

variable {t : Timeline} {ref : Ref} {slot : Nat → Nat} {k : Nat}

/-- What falls due after one point in time and up to another. -/
def between (t : Timeline) (earlier later : Nat) : List MemoryStore.Op :=
  ((t.pending.dropWhile (·.1 ≤ earlier)).takeWhile (·.1 ≤ later)).map (·.2)

/-- All that is done to the store up to slot `k`, if a resource is read at each slot before. -/
def history (t : Timeline) (ref : Ref) (slot : Nat → Nat) : Nat → List MemoryStore.Op
  | 0 => (t.pending.takeWhile (·.1 ≤ slot 0)).map (·.2)
  | k + 1 => t.history ref slot k ++ .get ref :: t.between (slot k) (slot (k + 1))

/-- What a read of the resource at slot `k` finds. -/
def sees (t : Timeline) (ref : Ref) (slot : Nat → Nat) (k : Nat) : Option Store.Observation :=
  ((t.memory.run (t.history ref slot k)).2.get ref).1

/-- The timeline at slot `k`, before it is read there. -/
def upTo (t : Timeline) (ref : Ref) (slot : Nat → Nat) (k : Nat) : Timeline where
  memory := (t.memory.run (t.history ref slot k)).2
  pending := t.pending.dropWhile (·.1 ≤ slot k)

theorem catchUp_upTo (order : slot k ≤ slot (k + 1)) :
    catchUp (slot (k + 1))
        { t.upTo ref slot k with memory := ((t.upTo ref slot k).memory.get ref).2 } =
      t.upTo ref slot (k + 1) := by
  have weaker : ∀ op : Nat × MemoryStore.Op, op.1 ≤ slot k → op.1 ≤ slot (k + 1) :=
    fun _ due => Nat.le_trans due order
  rw [catchUp, upTo, upTo, history, MemoryStore.run_append,
    dropWhile_dropWhile (by simpa using weaker)]
  rfl

end Timeline

namespace ReadyProbe

open Timeline

/-- A read of the store that others work on, with what was due before it. -/
theorem attempt_timeline (p : ReadyProbe) (w : World Timeline) :
    ∃ p' after, ((attempt Timeline.store).run p).run w =
        ((judge p.cluster p.expected (.ok ((w.state.catchUp w.now).memory.get p.cluster).1), p'),
          after) ∧
      (p'.cluster = p.cluster ∧ p'.expected = p.expected) ∧ after.now = w.now ∧
      after.state = { w.state.catchUp w.now with
        memory := ((w.state.catchUp w.now).memory.get p.cluster).2 } := by
  rw [attempt_run]
  exact ⟨_, _, rfl, ⟨rfl, rfl⟩, rfl, rfl⟩

theorem attempt_samples (w : Window) (t : Timeline) (cluster : Ref) (expected start : Nat) :
    let slot k := start + w.interval.nanos * k
    Poll.Samples w (attempt Timeline.store) start
      (fun k => judge cluster expected (.ok (t.sees cluster slot k)))
      fun k p state => (p.cluster = cluster ∧ p.expected = expected) ∧
        state.catchUp (slot k) = t.upTo cluster slot k := by
  rintro slot k p world now ⟨⟨rfl, rfl⟩, caught⟩
  obtain ⟨p', after, ran, same, took, left⟩ := attempt_timeline p world
  rw [now, caught] at ran left
  have order : slot k ≤ slot (k + 1) :=
    Nat.add_le_add_left (Nat.mul_le_mul_left _ (Nat.le_succ k)) _
  exact ⟨p', after, ran, took, same, left ▸ catchUp_upTo order⟩

/-- What is wrong with a read that does not show the cluster ready. -/
def unready (cluster : Ref) (expected : Nat) : Option Store.Observation → NotConverged
  | none => .missing cluster
  | some found => .readyMismatch cluster expected found.readyCount

variable {cluster : Ref} {expected : Nat} {found? : Option Store.Observation}

theorem judge_ready {found : Store.Observation} (ready : found.readyCount = expected) :
    judge cluster expected (.ok (some found)) = .ok found := by
  rw [judge_found, if_pos ready]

theorem judge_unready (never : ¬∃ found, found? = some found ∧ found.readyCount = expected) :
    judge cluster expected (.ok found?) = .error (unready cluster expected found?) := by
  cases found? with
  | none => rfl
  | some found => rw [judge_found, if_neg fun ready => never ⟨found, rfl, ready⟩, unready]

theorem judge_passes :
    (∃ value, judge cluster expected (.ok found?) = .ok value) ↔
      ∃ found, found? = some found ∧ found.readyCount = expected := by
  rw [judge_ok_iff]
  simp only [Except.ok.injEq]

variable {w : Window} {start n k : Nat} {seen : Nat → Option Store.Observation}
  {ending : Poll.Ending NotConverged Store.Observation}

theorem sampled_ready
    (sampled : Poll.Sampled w start (fun k => judge cluster expected (.ok (seen k))) n ending)
    (inside : k ≤ w.slots)
    (first : First (fun k => ∃ found, seen k = some found ∧ found.readyCount = expected) k) :
    (Poll.Reached w start k → n = k ∧ ∃ found, seen k = some found ∧ ending = .ok (.ok found)) ∧
      (¬Poll.Reached w start k → ending = .error .instant) := by
  refine ⟨fun reached => ?_, fun beyond => ?_⟩
  · obtain ⟨rfl, value, passed, rfl⟩ :=
      sampled.of_first ((First.congr fun k => judge_passes).2 first) inside reached
    obtain ⟨found, sight, count⟩ := first.1
    rw [sight, judge_ready count] at passed
    cases passed
    exact ⟨rfl, value, sight, rfl⟩
  · exact (sampled.of_beyond beyond inside fun j less passed =>
      first.2 j less (judge_passes.1 passed)).1

theorem sampled_unready
    (sampled : Poll.Sampled w start (fun k => judge cluster expected (.ok (seen k))) n ending)
    (never : ∀ k ≤ w.slots, ¬∃ found, seen k = some found ∧ found.readyCount = expected) :
    (Poll.Reached w start w.slots → n = w.slots ∧ ending = .ok (.error
        ⟨unready cluster expected (seen w.slots), w.slots + 1, w.interval.nanos * w.slots⟩)) ∧
      (¬Poll.Reached w start w.slots → ending = .error .instant) := by
  have vain : ∀ k ≤ w.slots, ¬∃ value, judge cluster expected (.ok (seen k)) = .ok value :=
    fun k inside passed => never k inside (judge_passes.1 passed)
  refine ⟨fun reached => ?_, fun beyond => ?_⟩
  · obtain ⟨rfl, error, failed, rfl⟩ := sampled.of_never vain reached
    rw [judge_unready (never w.slots (Nat.le_refl _))] at failed
    cases failed
    exact ⟨rfl, rfl⟩
  · exact (sampled.of_beyond beyond (Nat.le_refl _) fun j less => vain j (Nat.le_of_lt less)).1

theorem run_sampled {w : Window} (narrow : w.Narrow) (interval : Time.Whole w.interval.nanos)
    (cluster : Ref) (expected : Nat) (world : World Timeline) (whole : Time.Whole world.now)
    (clock : world.now < Time.limit) :
    let seen := world.state.sees cluster fun k => world.now + w.interval.nanos * k
    ∃ n ending p' after,
      ((Poll.run w (attempt Timeline.store)).run { cluster, expected }).run world =
          ((ending, p'), after) ∧
        Poll.Sampled w world.now (fun k => judge cluster expected (.ok (seen k))) n ending ∧
        after.now = world.now + w.interval.nanos * n := by
  obtain ⟨n, ending, p', after, ran, sampled, lasted, -⟩ :=
    Poll.run_samples (m := { cluster, expected })
      (attempt_samples w world.state cluster expected world.now) narrow interval whole clock
      ⟨⟨rfl, rfl⟩, rfl⟩
  exact ⟨n, ending, p', after, ran, sampled, lasted⟩

/-- A poll for ready workers passes at the first slot at which as many as expected are seen. If
there is none, it ends at the last slot, for what is seen there. All else that happens to the store
makes no difference. Instead of going on to a slot that no clock reaches, the poll panics. -/
theorem run_timeline {w : Window} (narrow : w.Narrow) (interval : Time.Whole w.interval.nanos)
    (cluster : Ref) (expected : Nat) (world : World Timeline) (whole : Time.Whole world.now)
    (clock : world.now < Time.limit) :
    let seen (world : World Timeline) :=
      world.state.sees cluster fun k => world.now + w.interval.nanos * k
    let polled (world : World Timeline) :=
      ((Poll.run w (attempt Timeline.store)).run { cluster, expected }).run world
    let ready k := ∃ found, seen world k = some found ∧ found.readyCount = expected
    let reached k := world.now + w.interval.nanos * k < Time.limit
    (∀ n ≤ w.slots, First ready n →
        (reached n → ∃ found, seen world n = some found ∧ (polled world).1.1 = .ok (.ok found) ∧
          (polled world).2.now = world.now + w.interval.nanos * n) ∧
        (¬reached n → (polled world).1.1 = .error .instant)) ∧
      ((∀ n ≤ w.slots, ¬ready n) →
        (reached w.slots → (polled world).1.1 = .ok (.error ⟨unready cluster expected
            (seen world w.slots), w.slots + 1, w.interval.nanos * w.slots⟩) ∧
          (polled world).2.now = world.now + w.interval.nanos * w.slots) ∧
        (¬reached w.slots → (polled world).1.1 = .error .instant)) ∧
      ∀ world' : World Timeline, Time.Whole world'.now → world'.now < Time.limit →
        (∀ k ≤ w.slots, world'.now + w.interval.nanos * k < Time.limit ↔ reached k) →
        (∀ k ≤ w.slots, seen world' k = seen world k) →
          (polled world').1.1 = (polled world).1.1 ∧
            (polled world').2.now - world'.now = (polled world).2.now - world.now := by
  intro seen polled ready reached
  obtain ⟨n, ending, p', after, ran, sampled, lasted⟩ :=
    run_sampled narrow interval cluster expected world whole clock
  rw [show polled world = _ from ran]
  refine ⟨?held, ?exhausted, ?alike⟩
  case held =>
    intro k inside first
    obtain ⟨passes, panics⟩ := sampled_ready sampled inside first
    refine ⟨fun reached => ?_, panics⟩
    obtain ⟨rfl, found, sight, rfl⟩ := passes reached
    exact ⟨found, sight, rfl, lasted⟩
  case exhausted =>
    intro never
    obtain ⟨fails, panics⟩ := sampled_unready sampled never
    refine ⟨fun reached => ?_, panics⟩
    obtain ⟨rfl, rfl⟩ := fails reached
    exact ⟨rfl, lasted⟩
  case alike =>
    intro world' whole' clock' clocks alike
    obtain ⟨n', ending', p'', after', ran', sampled', lasted'⟩ :=
      run_sampled narrow interval cluster expected world' whole' clock'
    have same := sampled'.congr fun k inside =>
      congrArg (fun found? => judge cluster expected (.ok found?)) (alike k inside)
    obtain ⟨rfl, rfl⟩ := sampled.unique clocks same
    rw [show polled world' = _ from ran', lasted, lasted']
    exact ⟨rfl, by omega⟩

/-- Workers that are ready between two slots only are as good as none. -/
theorem run_timeline_flicker :
    let window : Window := ⟨.ofMillis 2000, .ofMillis 1000, by decide⟩
    let c : Cluster := { name := "ex-aao-broker", ns := "default", replicas := 2 }
    let memory := (MemoryStore.create (.cluster c) {}).2
    let flicker : Timeline := { memory, pending := [(Time.ofMillis 1500, .setReady c.ref 2),
      (Time.ofMillis 1800, .setReady c.ref 0)] }
    let polled (t : Timeline) :=
      ((Poll.run window (attempt Timeline.store)).run { cluster := c.ref, expected := 2 }).run
        { state := t }
    window.Narrow ∧ Time.Whole window.interval.nanos ∧ Time.Whole 0 ∧
      (((flicker.catchUp (Time.ofMillis 1600)).memory.get c.ref).1.map (·.readyCount)) = some 2 ∧
      (polled flicker).1.1 =
        .ok (.error ⟨.readyMismatch c.ref 2 0, 3, window.interval.nanos * 2⟩) ∧
      (polled flicker).2.now = Time.ofMillis 2000 ∧
      (polled { memory }).1.1 = (polled flicker).1.1 := by
  intro window c memory flicker polled
  have narrow : window.Narrow := by decide
  have interval : Time.Whole window.interval.nanos := Time.whole_ofMillis _
  have whole : Time.Whole 0 := Nat.dvd_zero _
  have clock : 0 < Time.limit := by decide
  let seen (t : Timeline) := t.sees c.ref fun k => 0 + window.interval.nanos * k
  have never : ∀ k ≤ window.slots,
      ¬∃ found, seen flicker k = some found ∧ found.readyCount = 2 := by
    decide +kernel
  have alike : ∀ k ≤ window.slots, seen { memory } k = seen flicker k := by decide +kernel
  have sight : unready c.ref 2 (seen flicker window.slots) = .readyMismatch c.ref 2 0 := by
    decide +kernel
  have slots : window.slots = 2 := by decide
  have reached : 0 + window.interval.nanos * window.slots < Time.limit := by decide
  obtain ⟨-, exhausted, same⟩ :=
    run_timeline narrow interval c.ref 2 { state := flicker : World Timeline } whole clock
  obtain ⟨failed, lasted⟩ := (exhausted never).1 reached
  refine ⟨narrow, interval, whole, by decide +kernel, ?_, ?_,
    (same { state := { memory } } whole clock (fun _ _ => Iff.rfl) alike).1⟩
  · refine failed.trans ?_
    rw [show unready c.ref 2 _ = _ from sight, slots]
  · exact lasted.trans (by decide +kernel)

/-- With a slot every `2 ^ 63` seconds a cluster is seen ready at its second slot, but the poll panics
on the way there: no clock reaches it. -/
theorem run_timeline_endless :
    let endless : Duration := ⟨Time.limit, by decide⟩
    let window : Window := ⟨endless, endless, by decide⟩
    let c : Cluster := { name := "c", ns := "default", replicas := 2 }
    let memory := ((({} : MemoryStore).create (.cluster c)).2.scriptRollout c.ref [0, 2])
    let t : Timeline := { memory, pending := [] }
    let seen := t.sees c.ref fun k => 0 + window.interval.nanos * k
    let ready k := ∃ found, seen k = some found ∧ found.readyCount = 2
    window.Narrow ∧ Time.Whole window.interval.nanos ∧ window.slots = 1 ∧ First ready 1 ∧
      (((Poll.run window (attempt Timeline.store)).run { cluster := c.ref, expected := 2 }).run
        { state := t }).1.1 = .error .instant := by
  intro endless window c memory t seen ready
  have first : First ready 1 := by
    refine ⟨⟨Stored.observe ⟨.cluster c, 2, 1⟩, by decide +kernel⟩, fun k less => ?_⟩
    obtain rfl : k = 0 := by omega
    show ¬∃ found, seen 0 = some found ∧ found.readyCount = 2
    decide +kernel
  have interval : Time.Whole window.interval.nanos := Nat.dvd_of_mod_eq_zero (by decide)
  exact ⟨by decide, interval, by decide, first, by decide +kernel⟩

end ReadyProbe

end BrokerRollout
