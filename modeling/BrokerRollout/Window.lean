import BrokerRollout.Time

/-!
# Poll windows

A window is a timeout cut into slots at the multiples of an interval. Main statements: a slot is
offered exactly while its multiple fits into the timeout (`Window.slot?_eq_some_iff`), which
is the case for the first `timeout / interval` of them (`Window.slot?_isSome_iff`).
-/

namespace BrokerRollout

/-- A sum that does not fit, which ends the program where it stands. -/
inductive Panic where
  /-- One more than the largest count of attempts. -/
  | count
  /-- A point in time that no clock reaches. -/
  | instant
deriving DecidableEq

def Panic.message : Panic → String
  | .count => "attempt to add with overflow"
  | .instant => "overflow when adding duration to instant"

/-- How long a condition is waited for, and how often it is sampled meanwhile. -/
structure Window where
  timeout : Duration
  interval : Duration
  interval_pos : 0 < interval.nanos
deriving DecidableEq

/-- Why a pair of durations is no window. -/
inductive WindowError where
  | zeroInterval
deriving DecidableEq

def WindowError.message : WindowError → String
  | .zeroInterval => "poll interval must be greater than zero"

namespace Window

/-- A timeout below the interval is accepted: it leaves room for one attempt. -/
def ofDurations (timeout interval : Duration) : Except WindowError Window :=
  if h : 0 < interval.nanos then .ok ⟨timeout, interval, h⟩ else .error .zeroInterval

/-- The window of a timeout and an interval in milliseconds. -/
def ofMillis (timeout interval : UInt64) : Except WindowError Window :=
  ofDurations (.ofMillis timeout) (.ofMillis interval)

/-- How many whole intervals fit into the timeout. -/
def slots (w : Window) : Nat := w.timeout.nanos / w.interval.nanos

/-- The largest count that fits into 32 bits. -/
def maxCount : Nat := UInt32.size - 1

/-- The slots as they are counted in 32 bits; a larger number is reported as one below the
largest, so that one can be added. -/
def counted (w : Window) : Nat := if w.slots ≤ maxCount then w.slots else maxCount - 1

/-- The bound on attempts that is announced for a window: one at once and one for each slot. There is
none if the sum does not fit into 32 bits. -/
def maxAttempts (w : Window) : Except Panic Nat :=
  if w.counted < maxCount then .ok (w.counted + 1) else .error .count

/-- The offset of the slot that follows `made` attempts, if it is inside the window. -/
def slot? (w : Window) (made : Nat) : Option Duration :=
  (w.interval.times? made).filter (·.nanos ≤ w.timeout.nanos)

theorem slot?_eq_some_iff {w : Window} {n : Nat} {d : Duration} :
    w.slot? n = some d ↔ d.nanos = w.interval.nanos * n ∧ d.nanos ≤ w.timeout.nanos := by
  simp [slot?, Option.filter_eq_some_iff, Duration.times?_eq_some_iff]

theorem le_slots_iff {w : Window} {n : Nat} :
    n ≤ w.slots ↔ w.interval.nanos * n ≤ w.timeout.nanos := by
  rw [slots, Nat.le_div_iff_mul_le w.interval_pos, Nat.mul_comm]

theorem slot?_isSome_iff {w : Window} {n : Nat} : (w.slot? n).isSome ↔ n ≤ w.slots := by
  rw [le_slots_iff, Option.isSome_iff_exists]
  constructor
  · rintro ⟨d, h⟩
    rw [slot?_eq_some_iff] at h
    omega
  · intro h
    have := w.timeout.nanos_lt
    exact ⟨⟨w.interval.nanos * n, by omega⟩, slot?_eq_some_iff.2 ⟨rfl, h⟩⟩

/-- A slot that is offered is one of the window's. -/
theorem le_slots_of_slot? {w : Window} {n : Nat} {d : Duration} (h : w.slot? n = some d) :
    n ≤ w.slots :=
  slot?_isSome_iff.1 (by simp [h])

end Window

end BrokerRollout
