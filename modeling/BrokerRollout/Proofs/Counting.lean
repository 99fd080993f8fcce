import BrokerRollout.Proofs.Plans
import BrokerRollout.Proofs.Schedule

/-!
# Slots and attempts as they are counted

The slots of a window are counted twice: by a division, for the bound on attempts that is announced,
and by the multiples of the interval that a poll goes through. Main statements: the two counts agree
as long as 32 bits hold them, whatever overflows on the way (`Window.slot?_counted`), and attempts
stay within the bound that is announced, if any is, and within 32 bits, for a poll that would need
more of them panics (`Poll.run_counted`).
-/

namespace BrokerRollout

namespace Window

variable {w : Window} {timeout interval : Duration} {n : Nat}

/-! ### Slots -/

theorem ofDurations_of_pos (positive : 0 < interval.nanos) :
    ofDurations timeout interval = .ok ⟨timeout, interval, positive⟩ := by
  unfold ofDurations
  rw [dif_pos positive]

theorem slot?_eq_some_iff_le {d : Duration} :
    w.slot? n = some d ↔ d.nanos = w.interval.nanos * n ∧ n ≤ w.slots := by
  rw [slot?_eq_some_iff, le_slots_iff]
  constructor
  · rintro ⟨same, fits⟩
    exact ⟨same, same ▸ fits⟩
  · rintro ⟨same, fits⟩
    exact ⟨same, same ▸ fits⟩

/-- A multiple that overflows is no slot. -/
theorem slots_lt_of_times? (overflows : w.interval.times? n = none) : w.slots < n := by
  apply Nat.lt_of_not_le
  intro inside
  have offered : (w.slot? n).isSome := slot?_isSome_iff.2 inside
  unfold slot? at offered
  rw [overflows] at offered
  cases offered

/-! ### The announced bound -/

/-- One more fits into 32 bits, unless the number of slots is the largest that does. -/
theorem counted_lt_iff : w.counted < maxCount ↔ w.slots ≠ maxCount := by
  have some : 0 < maxCount := by decide
  unfold counted
  split <;> omega

theorem maxAttempts_of_ne (unfull : w.slots ≠ maxCount) : w.maxAttempts = .ok (w.counted + 1) := by
  rw [maxAttempts, if_pos (counted_lt_iff.2 unfull)]

theorem maxAttempts_eq_error_iff : w.maxAttempts = .error .count ↔ w.slots = maxCount := by
  constructor
  · intro panics
    apply Classical.byContradiction
    intro unfull
    cases (maxAttempts_of_ne unfull).symm.trans panics
  · intro full
    rw [maxAttempts, if_neg fun fits => counted_lt_iff.1 fits full]

/-- A bound is the number of slots and one, but never above the largest count. -/
theorem bound_eq {bound : Nat} (announced : w.maxAttempts = .ok bound) :
    bound = min (w.slots + 1) maxCount := by
  have unfull : w.slots ≠ maxCount := by
    intro full
    cases announced.symm.trans (maxAttempts_eq_error_iff.2 full)
  obtain rfl := Except.ok.inj (announced.symm.trans (maxAttempts_of_ne unfull))
  have some : 0 < maxCount := by decide
  unfold counted
  split <;> omega

/-- Every positive interval makes a window with every timeout. Its slot number `n` is offered, and
is that multiple of the interval, just if `n` intervals fit into the timeout; a multiple too long to
be a duration does not fit. So a bound is announced, and the slots below the largest count are those
below it, unless the number of slots is that count itself. -/
theorem slot?_counted (timeout : Duration) (positive : 0 < interval.nanos) :
    ∃ w, ofDurations timeout interval = .ok w ∧ ∀ n,
      (∀ offset, w.slot? n = some offset ↔
        offset.nanos = interval.nanos * n ∧ n ≤ timeout.nanos / interval.nanos) ∧
      ((w.slot? n).isSome ↔ n ≤ timeout.nanos / interval.nanos) ∧
      (interval.times? n = none → timeout.nanos / interval.nanos < n) ∧
      (timeout.nanos / interval.nanos ≠ maxCount → n < maxCount →
        ∃ bound, w.maxAttempts = .ok bound ∧ ((w.slot? n).isSome ↔ n < bound)) := by
  let w : Window := ⟨timeout, interval, positive⟩
  refine ⟨w, ofDurations_of_pos positive, fun n => ⟨fun offset => slot?_eq_some_iff_le,
    slot?_isSome_iff, slots_lt_of_times? (w := w), ?_⟩⟩
  intro unfull small
  have announced := maxAttempts_of_ne (w := w) unfull
  refine ⟨_, announced, ?_⟩
  rw [slot?_isSome_iff, bound_eq announced]
  omega

/-- With an interval of five billion seconds the last 32-bit multiple overflows, and is outside of
the longest timeout. -/
theorem slot?_counted_overflow :
    let timeout : Duration := ⟨UInt64.size * Time.perSecond - 1, by decide⟩
    let interval : Duration := ⟨5000000000 * Time.perSecond, by decide⟩
    0 < interval.nanos ∧ interval.times? (maxCount - 1) = none ∧
      ∃ w, ofDurations timeout interval = .ok w ∧ w.slot? (maxCount - 1) = none ∧
        ∃ bound, w.maxAttempts = .ok bound ∧ bound ≤ maxCount - 1 := by
  intro timeout interval
  have positive : 0 < interval.nanos := by decide
  have overflows : interval.times? (maxCount - 1) = none := by decide
  obtain ⟨w, accepted, counts⟩ := slot?_counted timeout positive
  obtain ⟨-, offered, outside, announces⟩ := counts (maxCount - 1)
  obtain ⟨bound, announced, below⟩ := announces (by decide) (by decide)
  have beyond := outside overflows
  have unoffered : ¬(w.slot? (maxCount - 1)).isSome := by
    rw [offered]
    omega
  refine ⟨positive, overflows, w, accepted, by simpa using unoffered, bound, announced, ?_⟩
  rw [below] at unoffered
  omega

end Window

/-! ### Attempts -/

namespace Poll

variable {σ π ε α : Type} {w : Window} {reached : Nat → Prop} {wake : Nat → Nat} {made : Nat}
  {log : List (Attempt ε α)} {ending : Ending ε α}

/-- No attempt is made that is not counted. -/
theorem Paced.counted (h : Paced w reached wake made log ending) (room : made < Window.maxCount) :
    made + log.length ≤ Window.maxCount := by
  induction h with
  | last => exact room
  | retried _ _ _ counted _ _ ih =>
    have bound := ih counted
    rw [List.length_cons]
    omega

theorem Paced.attempts_eq {e : Exhausted ε}
    (h : Paced w reached wake 0 log (.ok (.error e))) : e.attempts = log.length := by
  obtain ⟨_, -, ends⟩ := h.conclusion
  cases ends with
  | exhausted => exact Nat.zero_add _

/-- Only where the attempts would be more than the largest count are they as many as that. -/
theorem Paced.overflows (h : Paced w reached wake 0 log (.error .count)) :
    Window.maxCount ≤ w.slots ∧ log.length = Window.maxCount := by
  have bound := h.counted (by decide)
  obtain ⟨_, -, ends⟩ := h.conclusion
  cases ends with
  | uncounted _ opened _ full =>
    unfold Window.Closed at opened
    omega

/-- A probe that fails at once is tried at every slot, until the attempts cannot be counted. -/
theorem run_failing (wide : Window.maxCount ≤ w.slots) (interval : Time.Whole w.interval.nanos)
    (error : ε) (m : π) {world : World σ} (whole : Time.Whole world.now)
    (inside : ∀ k ≤ Window.maxCount, Reached w world.now k) :
    let attempt : Probing π σ (Except ε α) := pure (.error error)
    ∃ log m' final after, ((run w attempt).run m).run world = ((.error .count, m'), after) ∧
      Attempts attempt world.now m world log m' final ∧ log.length = Window.maxCount := by
  intro attempt
  have forward : attempt.Forward := fun _ _ => Nat.le_refl _
  have plays : Plays attempt (fun _ => (0, .error error)) (fun _ _ _ => True) :=
    fun _ m world _ => ⟨m, world, rfl, rfl, trivial⟩
  obtain ⟨⟨⟨ending, m'⟩, after⟩, ran⟩ : ∃ out, ((run w attempt).run m).run world = out := ⟨_, rfl⟩
  obtain ⟨log, final, made, paced, -⟩ := run_paced forward whole ran
  have bound := paced.counted (by decide)
  rw [Nat.zero_add] at bound
  rcases ending with (_ | _) | outcome
  case error.count => exact ⟨log, m', final, after, ran, made, paced.overflows.2⟩
  case error.instant =>
    obtain ⟨_, -, ends⟩ := paced.conclusion
    cases ends with
    | stranded _ _ beyond =>
      rw [Nat.zero_add] at beyond
      exact absurd (inside _ bound) beyond
  case ok =>
    have all : log.length = w.slots + 1 := by
      refine paced.fills interval ?_ fun a member => ?_
      · obtain ⟨first, more, rfl, began⟩ := made.head
        intro a here
        obtain rfl := Option.some.inj here
        omega
      · obtain ⟨i, within, rfl⟩ := List.getElem_of_mem member
        obtain ⟨took, came⟩ := Prod.mk.inj ((plays.attempts made (k := 0) trivial).2 i within)
        exact ⟨⟨error, came⟩, took ▸ w.interval_pos⟩
    omega

/-- A bound is announced, and in 32 bits, unless the number of slots is the largest count: then the
announcement panics. No poll makes more attempts than are announced, or than can be counted. One that
would have to panics over its count: so does every window of whole milliseconds that is not narrow,
with a probe that fails at once. -/
theorem run_counted (w : Window) :
    (w.maxAttempts = .error .count ↔ w.slots = Window.maxCount) ∧
    (∀ bound, w.maxAttempts = .ok bound → bound ≤ Window.maxCount) ∧
    (∀ {σ π ε α : Type} {attempt : Probing π σ (Except ε α)}, attempt.Forward →
      ∀ (m : π) (world : World σ), ∃ log ending m' final after,
        ((run w attempt).run m).run world = ((ending, m'), after) ∧
        Attempts attempt world.now m world log m' final ∧
        (∀ e, ending = .ok (.error e) → e.attempts = log.length) ∧
        1 ≤ log.length ∧ log.length ≤ w.slots + 1 ∧ log.length ≤ Window.maxCount ∧
        (∀ bound, w.maxAttempts = .ok bound → log.length ≤ bound) ∧
        (ending = .error .count → ¬w.Narrow ∧ log.length = Window.maxCount)) ∧
    (¬w.Narrow → Time.Whole w.interval.nanos →
      ∀ {σ π ε α : Type} (error : ε) (m : π) (world : World σ), Time.Whole world.now →
        (∀ k ≤ Window.maxCount, Reached w world.now k) →
        let attempt : Probing π σ (Except ε α) := pure (.error error)
        ∃ log m' final after, ((run w attempt).run m).run world = ((.error .count, m'), after) ∧
          Attempts attempt world.now m world log m' final ∧ log.length = Window.maxCount) := by
  refine ⟨Window.maxAttempts_eq_error_iff, ?_, ?_, ?_⟩
  · intro bound announced
    rw [Window.bound_eq announced]
    exact Nat.min_le_right ..
  · intro σ π ε α attempt forward m world
    obtain ⟨⟨⟨ending, m'⟩, after⟩, ran⟩ :
        ∃ out, ((run w attempt).run m).run world = out := ⟨_, rfl⟩
    obtain ⟨log, final, made, paced, -⟩ := (run_resumed ran).paced forward (Nat.le_refl _)
    have bound := paced.length_le (Nat.zero_le _)
    have counted := paced.counted (by decide)
    rw [Nat.zero_add] at bound counted
    refine ⟨log, ending, m', final, after, ran, made, ?_, List.length_pos_iff.2 paced.nonempty, bound,
      counted, fun announced here => ?_, ?_⟩
    · rintro e rfl
      exact paced.attempts_eq
    · rw [Window.bound_eq here]
      exact Nat.le_min.2 ⟨bound, counted⟩
    · rintro rfl
      obtain ⟨wide, all⟩ := paced.overflows
      exact ⟨Nat.not_lt.2 wide, all⟩
  · intro wide interval σ π ε α error m world whole inside
    exact run_failing (Nat.le_of_not_lt wide) interval error m whole inside

/-- One second more or less decides whether a wait of 136 years, with a look each second, can count
its attempts. -/
theorem run_counted_widest :
    let narrow : Window := ⟨.ofMillis 4294967294000, .ofMillis 1000, by decide⟩
    let wide : Window := ⟨.ofMillis 4294967295000, .ofMillis 1000, by decide⟩
    let busy : Probing Unit Unit (Except String Unit) := pure (.error "busy")
    let world : World Unit := { state := () }
    narrow.Narrow ∧ busy.Forward ∧ narrow.maxAttempts = .ok Window.maxCount ∧
      (∃ log ending m' final after, ((run narrow busy).run ()).run world = ((ending, m'), after) ∧
        Attempts busy 0 () world log m' final ∧ log.length ≤ Window.maxCount ∧
        ending ≠ .error .count) ∧
      ¬wide.Narrow ∧ Time.Whole wide.interval.nanos ∧ Time.Whole world.now ∧
      ∃ log m' final after, ((run wide busy).run ()).run world = ((.error .count, m'), after) ∧
        Attempts busy 0 () world log m' final ∧ log.length = Window.maxCount := by
  intro narrow wide busy world
  have forward : busy.Forward := fun _ _ => Nat.le_refl _
  have within : narrow.Narrow := by decide
  have announced : narrow.maxAttempts = .ok Window.maxCount := by
    rw [within.maxAttempts, show narrow.slots + 1 = Window.maxCount by decide]
  have beyond : ¬wide.Narrow := by decide
  have interval : Time.Whole wide.interval.nanos := Time.whole_ofMillis _
  have whole : Time.Whole world.now := Nat.dvd_zero _
  have inside : Reached wide world.now Window.maxCount := by decide
  obtain ⟨-, -, polls, -⟩ := run_counted narrow
  obtain ⟨log, ending, m', final, after, ran, made, -, -, -, bound, -, full⟩ := polls forward () world
  obtain ⟨-, -, -, overflows⟩ := run_counted wide
  exact ⟨within, forward, announced, ⟨log, ending, m', final, after, ran, made, bound, fun panics =>
    (full panics).1 within⟩, beyond, interval, whole, overflows beyond interval "busy" () world whole
    fun _ => inside.mono⟩

/-- A window with the largest number of slots that can be counted: the sum does not fit and no bound
is announced, though a probe that succeeds at once makes one attempt. A probe that fails at once
panics when the count of its attempts is full. -/
theorem run_uncounted :
    let w : Window := ⟨.ofMillis 4294967295000, .ofMillis 1000, by decide⟩
    let busy : Probing Unit Unit (Except String Unit) := pure (.error "busy")
    let world : World Unit := { state := () }
    Window.ofMillis 4294967295000 1000 = .ok w ∧ Window.maxCount < w.counted + 1 ∧
      w.maxAttempts = .error .count ∧
      ∃ log m' final after, ((run w busy).run ()).run world = ((.error .count, m'), after) ∧
        Attempts busy 0 () world log m' final ∧ log.length = 4294967295 := by
  intro w busy world
  have interval : Time.Whole w.interval.nanos := Time.whole_ofMillis _
  have whole : Time.Whole world.now := Nat.dvd_zero _
  have inside : Reached w world.now Window.maxCount := by decide
  exact ⟨rfl, by decide, Window.maxAttempts_eq_error_iff.2 (by decide),
    run_failing (by decide) interval "busy" () whole fun _ => inside.mono⟩

end Poll

end BrokerRollout
