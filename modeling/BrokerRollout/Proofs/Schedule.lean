import BrokerRollout.Proofs.Polling

/-!
# The schedule of a poll

The attempts of a poll are a log: when each began, how long it took, and what came of it. An attempt
in vain is followed by one at the next slot, or at once if that slot is over, as long as the window
is open, a clock reaches the slot and the attempts can be counted. Main statement: `Poll.run_schedule`.
-/

namespace BrokerRollout

variable {σ π ε α β : Type}

namespace Sim

theorem now_run (w : World σ) : (now : Sim σ Nat).run w = Pure.pure (w.now, w) := rfl

end Sim

/-- Time never goes back. -/
def Probing.Forward (x : Probing π σ α) : Prop := ∀ m w, w.now ≤ ((x.run m).run w).2.now

namespace Poll

variable {w : Window} {attempt : Probing π σ (Except ε α)} {start made : Nat} {m m' : π}
  {world after : World σ}

/-! ### One attempt -/

theorem resume_of_ok {value : α} (ran : (attempt.run m).run world = ((.ok value, m'), after)) :
    ((resume w attempt start made).run m).run world = ((.ok (.ok value), m'), after) := by
  rw [resume, StateT.run_bind]
  exact Sim.run_bind_of ran

theorem resume_of_closed {error : ε}
    (ran : (attempt.run m).run world = ((.error error, m'), after))
    (closed : w.Closed (made + 1) (after.now - start)) :
    ((resume w attempt start made).run m).run world =
      ((.ok (.error ⟨error, made + 1, after.now - start⟩), m'), after) := by
  rw [resume, StateT.run_bind, Sim.run_bind_of ran]
  simp only [StateT.run_bind, StateT.run_monadLift, monadLift_self, bind_assoc, pure_bind,
    Sim.now_run]
  split
  case h_1 offset slot =>
    have fits := Window.le_slots_of_slot? slot
    unfold Window.Closed at closed
    rw [if_neg (by omega)]
    rfl
  case h_2 => rfl

/-- A clock reaches slot `k` of a poll that began at `start`. -/
def Reached (w : Window) (start k : Nat) : Prop := start + w.interval.nanos * k < Time.limit

instance (w : Window) (start k : Nat) : Decidable (Reached w start k) := Nat.decLt ..

theorem Reached.mono {k n : Nat} (h : Reached w start n) (earlier : k ≤ n) : Reached w start k :=
  Nat.lt_of_le_of_lt (Nat.add_le_add_left (Nat.mul_le_mul_left _ earlier) _) h

/-- The world when a sleeper for slot `k` of a poll that began at `start` wakes up. -/
def awake (w : Window) (start k : Nat) (world : World σ) : World σ :=
  { world with now := max world.now (Time.ceilMilli (start + w.interval.nanos * k)) }

/-- While the window is open, an attempt in vain is followed by the next slot's. -/
private theorem resume_of_vain {error : ε}
    (ran : (attempt.run m).run world = ((.error error, m'), after))
    (opened : ¬w.Closed (made + 1) (after.now - start)) :
    ((resume w attempt start made).run m).run world =
      ((match Time.after? start (w.interval.nanos * (made + 1)) with
        | some slot => do
          (Sim.sleepUntil slot : Sim σ Unit)
          if made + 1 < Window.maxCount then resume w attempt start (made + 1)
          else return .error .count
        | none => return .error .instant : Probing π σ (Ending ε α)).run m').run after := by
  rw [resume, StateT.run_bind, Sim.run_bind_of ran]
  simp only [StateT.run_bind, StateT.run_monadLift, monadLift_self, bind_assoc, pure_bind,
    Sim.now_run]
  unfold Window.Closed at opened
  split
  case h_1 offset slot =>
    rewrite [if_pos (by omega), (Window.slot?_eq_some_iff.1 slot).1]
    rfl
  case h_2 unoffered =>
    have offered : (w.slot? (made + 1)).isSome := Window.slot?_isSome_iff.2 (by omega)
    rw [unoffered] at offered
    cases offered

theorem resume_of_unreached {error : ε}
    (ran : (attempt.run m).run world = ((.error error, m'), after))
    (opened : ¬w.Closed (made + 1) (after.now - start)) (beyond : ¬Reached w start (made + 1)) :
    ((resume w attempt start made).run m).run world = ((.error .instant, m'), after) := by
  rw [resume_of_vain ran opened, Time.after?_of_le (Nat.le_of_not_lt beyond)]
  rfl

theorem resume_of_uncounted {error : ε}
    (ran : (attempt.run m).run world = ((.error error, m'), after))
    (opened : ¬w.Closed (made + 1) (after.now - start)) (inside : Reached w start (made + 1))
    (full : Window.maxCount ≤ made + 1) :
    ((resume w attempt start made).run m).run world =
      ((.error .count, m'), awake w start (made + 1) after) := by
  rw [resume_of_vain ran opened, Time.after?_of_lt inside]
  dsimp only
  rw [if_neg (Nat.not_lt.2 full)]
  rfl

theorem resume_of_open {error : ε}
    (ran : (attempt.run m).run world = ((.error error, m'), after))
    (opened : ¬w.Closed (made + 1) (after.now - start)) (inside : Reached w start (made + 1))
    (counted : made + 1 < Window.maxCount) :
    ((resume w attempt start made).run m).run world =
      ((resume w attempt start (made + 1)).run m').run (awake w start (made + 1) after) := by
  rw [resume_of_vain ran opened, Time.after?_of_lt inside]
  dsimp only
  rw [if_pos counted]
  rfl

/-! ### All attempts -/

/-- A poll that has made `made` attempts in vain goes on to this end. -/
inductive Resumed (w : Window) (attempt : Probing π σ (Except ε α)) (start : Nat) :
    Nat → π → World σ → Ending ε α → π → World σ → Prop where
  | held {made : Nat} {m m' : π} {world after : World σ} {value : α}
      (ran : (attempt.run m).run world = ((.ok value, m'), after)) :
      Resumed w attempt start made m world (.ok (.ok value)) m' after
  | exhausted {made : Nat} {m m' : π} {world after : World σ} {error : ε}
      (ran : (attempt.run m).run world = ((.error error, m'), after))
      (closed : w.Closed (made + 1) (after.now - start)) :
      Resumed w attempt start made m world
        (.ok (.error ⟨error, made + 1, after.now - start⟩)) m' after
  | stranded {made : Nat} {m m' : π} {world after : World σ} {error : ε}
      (ran : (attempt.run m).run world = ((.error error, m'), after))
      (opened : ¬w.Closed (made + 1) (after.now - start)) (beyond : ¬Reached w start (made + 1)) :
      Resumed w attempt start made m world (.error .instant) m' after
  | uncounted {made : Nat} {m m' : π} {world after : World σ} {error : ε}
      (ran : (attempt.run m).run world = ((.error error, m'), after))
      (opened : ¬w.Closed (made + 1) (after.now - start)) (inside : Reached w start (made + 1))
      (full : Window.maxCount ≤ made + 1) :
      Resumed w attempt start made m world (.error .count) m' (awake w start (made + 1) after)
  | retried {made : Nat} {m m' m'' : π} {world after final : World σ} {error : ε}
      {ending : Ending ε α} (ran : (attempt.run m).run world = ((.error error, m'), after))
      (opened : ¬w.Closed (made + 1) (after.now - start)) (inside : Reached w start (made + 1))
      (counted : made + 1 < Window.maxCount)
      (later : Resumed w attempt start (made + 1) m' (awake w start (made + 1) after) ending m''
        final) :
      Resumed w attempt start made m world ending m'' final

variable {ending : Ending ε α}

theorem resume_resumed
    (ran : ((resume w attempt start made).run m).run world = ((ending, m'), after)) :
    Resumed w attempt start made m world ending m' after := by
  -- Each attempt in vain uses up one of the slots that are left.
  induction left : w.slots - made using Nat.strongRecOn generalizing made m world with
  | ind left ih =>
    subst left
    obtain ⟨⟨⟨result, m₁⟩, middle⟩, tried⟩ : ∃ out, (attempt.run m).run world = out := ⟨_, rfl⟩
    cases result with
    | ok value =>
      rw [resume_of_ok tried] at ran
      cases ran
      exact .held tried
    | error error =>
      by_cases closed : w.Closed (made + 1) (middle.now - start)
      · rw [resume_of_closed tried closed] at ran
        cases ran
        exact .exhausted tried closed
      by_cases inside : Reached w start (made + 1)
      case neg =>
        rw [resume_of_unreached tried closed inside] at ran
        cases ran
        exact .stranded tried closed inside
      by_cases counted : made + 1 < Window.maxCount
      case neg =>
        have full := Nat.le_of_not_lt counted
        rw [resume_of_uncounted tried closed inside full] at ran
        cases ran
        exact .uncounted tried closed inside full
      rw [resume_of_open tried closed inside counted] at ran
      have room : made + 1 ≤ w.slots := by
        unfold Window.Closed at closed
        omega
      exact .retried tried closed inside counted (ih _ (by omega) ran rfl)

theorem run_resumed (ran : ((run w attempt).run m).run world = ((ending, m'), after)) :
    Resumed w attempt world.now 0 m world ending m' after :=
  resume_resumed ran

/-! ### The log -/

/-- An attempt as it happened: when it began, counted from the first, how long it took, and what
came of it. -/
@[ext]
structure Attempt (ε α : Type) where
  began : Nat
  took : Nat
  outcome : Except ε α

def Attempt.ended (a : Attempt ε α) : Nat := a.began + a.took

/-- The probe makes this attempt in `world`, and leaves `after`. -/
structure Attempt.Made (attempt : Probing π σ (Except ε α)) (start : Nat) (m : π)
    (world : World σ) (a : Attempt ε α) (m' : π) (after : World σ) : Prop where
  ran : (attempt.run m).run world = ((a.outcome, m'), after)
  began : world.now = start + a.began
  ended : after.now = start + a.ended

/-- The attempts on the way from one world to another. Between two of them time may pass, and
nothing else happens. -/
inductive Attempts (attempt : Probing π σ (Except ε α)) (start : Nat) :
    π → World σ → List (Attempt ε α) → π → World σ → Prop where
  | once {m m' : π} {world after : World σ} {a : Attempt ε α}
      (here : a.Made attempt start m world m' after) : Attempts attempt start m world [a] m' after
  | again {m m' m'' : π} {world after final : World σ} {a : Attempt ε α}
      {log : List (Attempt ε α)} (t : Nat) (here : a.Made attempt start m world m' after)
      (later : Attempts attempt start m' { after with now := t } log m'' final) :
      Attempts attempt start m world (a :: log) m'' final

/-- When a sleeper for slot `k` of a poll that began at `start` wakes up, counted from there. -/
def wakes (w : Window) (start k : Nat) : Nat :=
  Time.ceilMilli (start + w.interval.nanos * k) - start

theorem wakes_of_whole (w : Window) (whole : Time.Whole start) :
    wakes w start = fun k => Time.ceilMilli (w.interval.nanos * k) := by
  funext k
  rw [wakes, Time.ceilMilli_add whole, Nat.add_sub_cancel_left]

/-- How a poll ends whose last attempt is `last`, the one of this number, by the slots that a clock
reaches. -/
inductive Concludes (w : Window) (reached : Nat → Prop) (number : Nat) (last : Attempt ε α) :
    Ending ε α → Prop where
  | held {value : α} (passed : last.outcome = .ok value) :
      Concludes w reached number last (.ok (.ok value))
  | exhausted {error : ε} (failed : last.outcome = .error error)
      (closed : w.Closed number last.ended) :
      Concludes w reached number last (.ok (.error ⟨error, number, last.ended⟩))
  | stranded {error : ε} (failed : last.outcome = .error error)
      (opened : ¬w.Closed number last.ended) (beyond : ¬reached number) :
      Concludes w reached number last (.error .instant)
  | uncounted {error : ε} (failed : last.outcome = .error error)
      (opened : ¬w.Closed number last.ended) (inside : reached number)
      (full : Window.maxCount ≤ number) : Concludes w reached number last (.error .count)

/-- Attempts from number `made` on that keep to the slots of a window, and how the poll ends. The
one for slot `k` begins at `wake k`, or at once if it is late. -/
inductive Paced (w : Window) (reached : Nat → Prop) (wake : Nat → Nat) :
    Nat → List (Attempt ε α) → Ending ε α → Prop where
  | last {made : Nat} {a : Attempt ε α} {ending : Ending ε α}
      (ends : Concludes w reached (made + 1) a ending) : Paced w reached wake made [a] ending
  | retried {made : Nat} {a next : Attempt ε α} {log : List (Attempt ε α)} {ending : Ending ε α}
      {error : ε} (failed : a.outcome = .error error) (opened : ¬w.Closed (made + 1) a.ended)
      (inside : reached (made + 1)) (counted : made + 1 < Window.maxCount)
      (resumed : next.began = max a.ended (wake (made + 1)))
      (later : Paced w reached wake (made + 1) (next :: log) ending) :
      Paced w reached wake made (a :: next :: log) ending

variable {log : List (Attempt ε α)}

theorem Attempts.head (h : Attempts attempt start m world log m' after) :
    ∃ a more, log = a :: more ∧ world.now = start + a.began := by
  cases h with
  | once here => exact ⟨_, _, rfl, here.began⟩
  | again _ here _ => exact ⟨_, _, rfl, here.began⟩

theorem attempt_made (forward : attempt.Forward) (late : start ≤ world.now)
    {result : Except ε α} (ran : (attempt.run m).run world = ((result, m'), after)) :
    ∃ a : Attempt ε α, a.Made attempt start m world m' after ∧ a.outcome = result ∧
      a.ended = after.now - start := by
  have onward : world.now ≤ after.now := by
    have passes := forward m world
    rwa [ran] at passes
  have began : world.now = start + (world.now - start) := by omega
  have ended : after.now = start + (world.now - start + (after.now - world.now)) := by omega
  refine ⟨⟨world.now - start, after.now - world.now, result⟩, ⟨ran, began, ended⟩, rfl, ?_⟩
  show world.now - start + (after.now - world.now) = after.now - start
  omega

theorem Resumed.paced (h : Resumed w attempt start made m world ending m' after)
    (forward : attempt.Forward) (late : start ≤ world.now) :
    ∃ log final, Attempts attempt start m world log m' final ∧
      Paced w (Reached w start) (wakes w start) made log ending ∧
      (ending ≠ .error .count → after = final) := by
  induction h with
  | held ran =>
    obtain ⟨a, here, came, -⟩ := attempt_made forward late ran
    exact ⟨[a], _, .once here, .last (.held came), fun _ => rfl⟩
  | exhausted ran closed =>
    obtain ⟨a, here, came, ended⟩ := attempt_made forward late ran
    rw [← ended] at closed ⊢
    exact ⟨[a], _, .once here, .last (.exhausted came closed), fun _ => rfl⟩
  | stranded ran opened beyond =>
    obtain ⟨a, here, came, ended⟩ := attempt_made forward late ran
    rw [← ended] at opened
    exact ⟨[a], _, .once here, .last (.stranded came opened beyond), fun _ => rfl⟩
  | uncounted ran opened inside full =>
    obtain ⟨a, here, came, ended⟩ := attempt_made forward late ran
    rw [← ended] at opened
    exact ⟨[a], _, .once here, .last (.uncounted came opened inside full), fun other =>
      absurd rfl other⟩
  | @retried made _ _ _ _ _ _ _ _ ran opened inside counted later ih =>
    obtain ⟨a, here, came, ended⟩ := attempt_made forward late ran
    rw [← ended] at opened
    have onward : start ≤ Time.ceilMilli (start + w.interval.nanos * (made + 1)) :=
      Nat.le_trans (Nat.le_add_right ..) (Time.le_ceilMilli _)
    obtain ⟨log, final, chain, paced, left⟩ := ih (Nat.le_trans onward (Nat.le_max_right ..))
    obtain ⟨next, more, rfl, began⟩ := chain.head
    refine ⟨a :: next :: more, final, .again _ here chain,
      .retried came opened inside counted ?_ paced, left⟩
    have ends := here.ended
    unfold wakes
    dsimp only [awake] at began
    omega

theorem run_paced (forward : attempt.Forward) (whole : Time.Whole world.now)
    (ran : ((run w attempt).run m).run world = ((ending, m'), after)) :
    ∃ log final, Attempts attempt world.now m world log m' final ∧
      Paced w (Reached w world.now) (fun k => Time.ceilMilli (w.interval.nanos * k)) 0 log ending ∧
      (ending ≠ .error .count → after = final) :=
  wakes_of_whole w whole ▸ (run_resumed ran).paced forward (Nat.le_refl _)

/-- From states with `inv k` on, attempts number `k` and later take as long and come out as `turns`
says. -/
def Plays (attempt : Probing π σ (Except ε α)) (turns : Nat → Nat × Except ε α)
    (inv : Nat → π → σ → Prop) : Prop :=
  ∀ k m (world : World σ), inv k m world.state → ∃ m' after,
    (attempt.run m).run world = (((turns k).2, m'), after) ∧
      after.now = world.now + (turns k).1 ∧ inv (k + 1) m' after.state

variable {turns : Nat → Nat × Except ε α} {inv : Nat → π → σ → Prop}

theorem Plays.turn (plays : Plays attempt turns inv) {k : Nat} {a : Attempt ε α}
    (here : a.Made attempt start m world m' after) (begins : inv k m world.state) :
    inv (k + 1) m' after.state ∧ (a.took, a.outcome) = turns k := by
  obtain ⟨_, _, ran, took, onward⟩ := plays k m world begins
  obtain ⟨result, rfl⟩ := Prod.mk.inj (here.ran.symm.trans ran)
  obtain ⟨came, rfl⟩ := Prod.mk.inj result
  have began := here.began
  have ended := here.ended
  unfold Attempt.ended at ended
  exact ⟨onward, Prod.ext (by dsimp only; omega) came⟩

theorem Plays.attempts (plays : Plays attempt turns inv)
    (h : Attempts attempt start m world log m' after) {k : Nat} (begins : inv k m world.state) :
    inv (k + log.length) m' after.state ∧
      ∀ i (within : i < log.length), (log[i].took, log[i].outcome) = turns (k + i) := by
  -- `inv` is about states only, and so it outlasts the time that passes between attempts.
  induction h generalizing k with
  | once here =>
    obtain ⟨onward, turn⟩ := plays.turn here begins
    refine ⟨onward, fun i within => ?_⟩
    obtain rfl : i = 0 := by simpa using within
    exact turn
  | @again m m' m'' world after final a log t here later ih =>
    obtain ⟨onward, turn⟩ := plays.turn here begins
    obtain ⟨ends, rest⟩ := ih onward
    have count : k + (a :: log).length = k + 1 + log.length := Nat.add_right_comm k log.length 1
    refine ⟨count ▸ ends, fun i within => ?_⟩
    cases i with
    | zero => exact turn
    | succ i =>
      rw [show k + (i + 1) = k + 1 + i by omega]
      exact rest i (by simpa using within)

theorem Attempts.ended (h : Attempts attempt start m world log m' after) :
    ∀ a ∈ log.getLast?, after.now = start + a.ended := by
  induction h with
  | once here => simpa using here.ended
  | again t here later ih =>
    obtain ⟨_, _, rfl, -⟩ := later.head
    simpa using ih

/-! ### What keeping to the slots means -/

namespace Paced

variable {reached : Nat → Prop} {wake : Nat → Nat}

theorem nonempty (h : Paced w reached wake made log ending) : log ≠ [] := by
  cases h <;> simp

theorem length_le (h : Paced w reached wake made log ending) (room : made ≤ w.slots) :
    made + log.length ≤ w.slots + 1 := by
  induction h with
  | last => simpa using room
  | retried _ opened _ _ _ _ ih =>
    unfold Window.Closed at opened
    have bound := ih (by omega)
    rw [List.length_cons]
    omega

/-- Every attempt but the last was in vain, and left the window open with a slot that a clock
reaches and that counts; the next one began at its slot, or at once if it was late. -/
theorem retry (h : Paced w reached wake made log ending) {k : Nat} (more : k + 1 < log.length) :
    ((∃ error, log[k].outcome = .error error) ∧ ¬w.Closed (made + k + 1) log[k].ended ∧
      reached (made + k + 1) ∧ made + k + 1 < Window.maxCount) ∧
      log[k + 1].began = max log[k].ended (wake (made + k + 1)) := by
  induction h generalizing k with
  | last => simp at more
  | @retried made a next log ending error failed opened inside counted resumed later ih =>
    cases k with
    | zero => exact ⟨⟨⟨error, failed⟩, opened, inside, counted⟩, resumed⟩
    | succ k =>
      rw [show made + (k + 1) + 1 = made + 1 + k + 1 by omega]
      exact ih (by simpa using more)

theorem conclusion (h : Paced w reached wake made log ending) :
    ∃ last ∈ log.getLast?, Concludes w reached (made + log.length) last ending := by
  induction h with
  | last ends => exact ⟨_, rfl, ends⟩
  | @retried made a next log ending error failed opened inside counted resumed later ih =>
    rw [List.getLast?_cons_cons, List.length_cons]
    rwa [show made + 1 + (next :: log).length = made + ((next :: log).length + 1) by omega] at ih

/-- No attempt begins after the timeout, at the resolution of timers. -/
theorem began_le
    (h : Paced w reached (fun k => Time.ceilMilli (w.interval.nanos * k)) made log ending)
    (early : ∀ a ∈ log.head?, a.began ≤ Time.ceilMilli w.timeout.nanos) :
    ∀ a ∈ log, a.began ≤ Time.ceilMilli w.timeout.nanos := by
  induction h with
  | last => simpa using early
  | @retried made a next log ending error failed opened inside counted resumed later ih =>
    unfold Window.Closed at opened
    have slot := Time.ceilMilli_mono (Window.le_slots_iff.1 (show made + 1 ≤ w.slots by omega))
    have rounded := Time.le_ceilMilli w.timeout.nanos
    have next_early : next.began ≤ Time.ceilMilli w.timeout.nanos := by omega
    exact List.forall_mem_cons.2 ⟨early a rfl, ih (by simpa using next_early)⟩

/-- While no attempt takes longer than an interval, each begins at its slot. -/
theorem on_slot
    (h : Paced w reached (fun k => Time.ceilMilli (w.interval.nanos * k)) made log ending)
    (whole : Time.Whole w.interval.nanos)
    (early : ∀ a ∈ log.head?, a.began = w.interval.nanos * made)
    (quick : ∀ a ∈ log, a.took ≤ w.interval.nanos) {k : Nat} (within : k < log.length) :
    log[k].began = w.interval.nanos * (made + k) := by
  induction h generalizing k with
  | last =>
    obtain rfl : k = 0 := by simpa using within
    exact early _ rfl
  | @retried made a next log ending error failed opened inside counted resumed later ih =>
    obtain ⟨first_quick, quick⟩ := List.forall_mem_cons.1 quick
    have began := early a rfl
    cases k with
    | zero => exact began
    | succ k =>
      have slot := Time.ceilMilli_of_whole (Nat.dvd_mul_right_of_dvd whole (made + 1))
      have next_began : next.began = w.interval.nanos * (made + 1) := by
        rw [resumed, slot, Attempt.ended, began, Nat.mul_succ]
        omega
      rw [show made + (k + 1) = made + 1 + k by omega]
      exact ih (by simpa using next_began) quick (by simpa using within)

/-- A poll in vain that runs to its end uses up all slots, if its attempts are over before their next
slot. -/
theorem fills {outcome : Except (Exhausted ε) α}
    (h : Paced w reached (fun k => Time.ceilMilli (w.interval.nanos * k)) 0 log (.ok outcome))
    (whole : Time.Whole w.interval.nanos) (early : ∀ a ∈ log.head?, a.began = 0)
    (quick : ∀ a ∈ log, (∃ error, a.outcome = .error error) ∧ a.took < w.interval.nanos) :
    log.length = w.slots + 1 := by
  obtain ⟨last, final, ends⟩ := h.conclusion
  obtain ⟨⟨error, failed⟩, took⟩ := quick last (List.mem_of_getLast? final)
  cases ends with
  | held passed => cases passed.symm.trans failed
  | exhausted _ closed =>
    have bound := h.length_le (Nat.zero_le _)
    have count := List.length_pos_iff.2 h.nonempty
    have place : log[log.length - 1] = last := by
      rw [Option.mem_def, List.getLast?_eq_getElem?] at final
      exact (List.getElem?_eq_some_iff.1 final).2
    have began := h.on_slot whole early (fun a member => Nat.le_of_lt (quick a member).2)
      (k := log.length - 1) (by omega)
    rw [place] at began
    -- The last attempt ended before the slot after it, so that only the slots close the window.
    refine Nat.le_antisymm (by omega) (Nat.le_of_not_lt fun short => ?_)
    have next := Window.le_slots_iff.1 (show log.length - 1 + 1 ≤ w.slots by omega)
    rw [Nat.mul_succ] at next
    unfold Window.Closed Attempt.ended at closed
    rw [Nat.zero_add] at began closed
    omega

/-- A poll that a clock and the count of attempts leave all its slots does not panic. -/
theorem returns (h : Paced w reached wake 0 log ending) (inside : ∀ k ≤ w.slots, reached k)
    (narrow : w.slots < Window.maxCount) : ∃ outcome, ending = .ok outcome := by
  obtain ⟨last, -, ends⟩ := h.conclusion
  cases ends with
  | held | exhausted => exact ⟨_, rfl⟩
  | stranded _ opened beyond =>
    unfold Window.Closed at opened
    exact absurd (inside _ (by omega)) beyond
  | uncounted _ opened _ full =>
    unfold Window.Closed at opened
    omega

end Paced

/-- What a poll's attempts have to do with its window, the clock and the way it ends. -/
structure Scheduled (w : Window) (start : Nat) (log : List (Attempt ε α)) (ending : Ending ε α) :
    Prop where
  some : 1 ≤ log.length
  bounded : log.length ≤ w.slots + 1
  first : ∀ h : 0 < log.length, log[0].began = 0
  /-- An attempt begins at its slot, or when the one before has ended if that is later. -/
  next : ∀ k (h : k + 1 < log.length),
    log[k + 1].began = max log[k].ended (Time.ceilMilli (w.interval.nanos * (k + 1)))
  slot : ∀ k (h : k < log.length), w.interval.nanos * k ≤ log[k].began
  inside : ∀ a ∈ log, a.began ≤ Time.ceilMilli w.timeout.nanos
  /-- All attempts but the last were in vain, and left a slot and time for another. -/
  vain : ∀ k (h : k + 1 < log.length),
    (∃ error, log[k].outcome = .error error) ∧ ¬w.Closed (k + 1) log[k].ended ∧
      Reached w start (k + 1) ∧ k + 1 < Window.maxCount
  /-- The poll ends with the value of the last attempt, or with its error and its end if that closes
  the window; otherwise it panics, because no clock reaches the next slot or the count is full. -/
  last : ∃ a ∈ log.getLast?, Concludes w (Reached w start) log.length a ending
  returns : (∀ k ≤ w.slots, Reached w start k) → w.slots < Window.maxCount →
    ∃ outcome, ending = .ok outcome
  /-- Attempts in vain that are over before their next slot are made at their slots, and at all of
  them unless the poll panics. -/
  prompt : Time.Whole w.interval.nanos →
    (∀ a ∈ log, (∃ error, a.outcome = .error error) ∧ a.took < w.interval.nanos) →
    (∀ k (h : k < log.length), log[k].began = w.interval.nanos * k) ∧
      ∀ outcome, ending = .ok outcome → log.length = w.slots + 1

/-- The attempts of a poll are made by the schedule, however long they take. The poll returns at the
first that succeeds or when the window closes, unless it comes to a slot that no clock reaches, or to
one more than it can count: then it panics. -/
theorem run_schedule (w : Window) (forward : attempt.Forward) (m : π)
    (whole : Time.Whole world.now) :
    ∃ log ending m' final after, ((run w attempt).run m).run world = ((ending, m'), after) ∧
      Attempts attempt world.now m world log m' final ∧ Scheduled w world.now log ending ∧
      (ending ≠ .error .count → after = final) := by
  obtain ⟨⟨⟨ending, m'⟩, after⟩, ran⟩ : ∃ out, ((run w attempt).run m).run world = out := ⟨_, rfl⟩
  obtain ⟨log, final, made, paced, left⟩ := run_paced forward whole ran
  obtain ⟨first, more, rfl, began⟩ := made.head
  have start : first.began = 0 := by omega
  have retry {k : Nat} (more : k + 1 < (first :: more).length) := paced.retry more
  simp only [Nat.zero_add] at retry
  refine ⟨first :: more, ending, m', final, after, ran, made, ?_, left⟩
  exact {
    some := Nat.succ_pos _
    bounded := by simpa using paced.length_le (Nat.zero_le _)
    first := fun _ => start
    next := fun k h => (retry h).2
    slot := by
      intro k h
      cases k with
      | zero => exact Nat.zero_le _
      | succ k =>
        rw [(retry h).2]
        exact Nat.le_trans (Time.le_ceilMilli _) (Nat.le_max_right ..)
    inside := paced.began_le (by simp [start])
    vain := fun k h => (retry h).1
    last := by simpa using paced.conclusion
    returns := paced.returns
    prompt := by
      intro interval quick
      refine ⟨fun k h => ?_, ?_⟩
      · have began := paced.on_slot interval (by simpa using start)
          (fun a member => Nat.le_of_lt (quick a member).2) h
        rwa [Nat.zero_add] at began
      · rintro outcome rfl
        exact paced.fills interval (by simpa using start) quick }

/-- A probe that fails at once makes four attempts in half a minute with one each ten seconds. -/
theorem run_schedule_busy :
    let window : Window := ⟨.ofMillis 30000, .ofMillis 10000, by decide⟩
    let busy : Probing Unit Unit (Except String Unit) := pure (.error "busy")
    busy.Forward ∧ Time.Whole 0 ∧
      ∃ log outcome m' after,
        ((run window busy).run ()).run { state := () } = ((.ok outcome, m'), after) ∧
          Attempts busy 0 () { state := () } log m' after ∧ log.length = 4 ∧
          (∀ k (h : k < log.length), log[k].began = 10 * Time.perSecond * k) ∧
          outcome = .error ⟨"busy", 4, 30 * Time.perSecond⟩ := by
  intro window busy
  have forward : busy.Forward := fun _ _ => Nat.le_refl _
  let world : World Unit := { state := () }
  have whole : Time.Whole world.now := Nat.dvd_zero _
  obtain ⟨log, ending, m', final, after, ran, made, scheduled, left⟩ :=
    run_schedule window forward () whole
  have plays : Plays busy (fun _ => (0, .error "busy")) (fun _ _ _ => True) :=
    fun _ _ world _ => ⟨(), world, rfl, rfl, trivial⟩
  have turns := (plays.attempts made (k := 0) trivial).2
  have turn : ∀ a ∈ log, a.took = 0 ∧ a.outcome = .error "busy" := by
    intro a member
    obtain ⟨i, within, rfl⟩ := List.getElem_of_mem member
    exact Prod.mk.inj (turns i within)
  have slots : window.slots = 3 := by decide
  have spacing : window.interval.nanos = 10 * Time.perSecond := by decide
  have inside : Reached window world.now window.slots := by decide
  obtain ⟨outcome, rfl⟩ := scheduled.returns (fun _ => inside.mono) (by decide)
  obtain rfl := left nofun
  have interval : Time.Whole window.interval.nanos := Time.whole_ofMillis _
  obtain ⟨began, fills⟩ := scheduled.prompt interval fun a member =>
    ⟨⟨_, (turn a member).2⟩, (turn a member).1 ▸ window.interval_pos⟩
  have count := fills outcome rfl
  rw [slots] at count
  rw [spacing] at began
  refine ⟨forward, whole, log, outcome, m', after, ran, made, count, began, ?_⟩
  obtain ⟨a, last, ends⟩ := scheduled.last
  obtain ⟨took, came⟩ := turn a (List.mem_of_getLast? last)
  cases ends with
  | held passed => cases came.symm.trans passed
  | exhausted failed =>
    cases came.symm.trans failed
    rw [Option.mem_def, List.getLast?_eq_getElem?] at last
    obtain ⟨within, rfl⟩ := List.getElem?_eq_some_iff.1 last
    rw [Attempt.ended, began _ within, took, count]
    simp [Time.perSecond]

/-- With an interval of `2 ^ 63` seconds there is a second slot, and no clock reaches it: the poll
panics after one attempt, though its window is open and the next attempt would succeed. -/
theorem run_endless :
    let endless : Duration := ⟨Time.limit, by decide⟩
    let window : Window := ⟨endless, endless, by decide⟩
    let second : Probing Bool Unit (Except String Nat) := modifyGet fun asked =>
      (if asked then .ok 1 else .error "no", true)
    let world : World Unit := { state := () }
    Window.ofDurations endless endless = .ok window ∧ window.slots < Window.maxCount ∧
      second.Forward ∧ Time.Whole world.now ∧
      ∃ a, ((run window second).run false).run world = ((.error .instant, true), world) ∧
        Attempts second 0 false world [a] true world ∧ ¬window.Closed 1 a.ended ∧
        ((second.run true).run world).1.1 = .ok 1 := by
  intro endless window second world
  have opened : ¬window.Closed (0 + 1) (world.now - world.now) := by decide
  have beyond : ¬Reached window world.now (0 + 1) := by decide
  have tried : (second.run false).run world = ((.error "no", true), world) := rfl
  have once : Attempts second 0 false world [⟨0, 0, .error "no"⟩] true world :=
    .once ⟨tried, rfl, rfl⟩
  exact ⟨rfl, by decide, fun _ _ => Nat.le_refl _, Nat.dvd_zero _, _,
    resume_of_unreached tried opened beyond, once, opened, rfl⟩

end Poll

end BrokerRollout
