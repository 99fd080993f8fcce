/-!
# Simulated time

Time is counted in whole nanoseconds: a natural number is a reading of the clock or the span between
two readings. A `Duration` is a configured span, below `2 ^ 64` seconds, and so it may be longer than
a clock can run (`Time.limit`).
Main statements: a multiple of a duration is refused exactly when it does not fit
(`Duration.times?_eq_some_iff`), and a sleeper wakes at the first whole millisecond that is not
before its deadline (`Time.le_ceilMilli`, `Time.ceilMilli_lt`).
-/

namespace BrokerRollout

namespace Time

/-- Nanoseconds in a millisecond. -/
def perMilli : Nat := 1000000

/-- Nanoseconds in a second. -/
def perSecond : Nat := 1000000000

def ofMillis (ms : Nat) : Nat := perMilli * ms

/-- What all readings of the clock are below: their whole seconds are counted in 63 bits. -/
def limit : Nat := UInt64.size / 2 * perSecond

/-- The reading that comes `span` after another, if there is one. -/
def after? (start span : Nat) : Option Nat :=
  if start + span < limit then some (start + span) else none

theorem after?_of_lt {start span : Nat} (early : start + span < limit) :
    after? start span = some (start + span) := if_pos early

theorem after?_of_le {start span : Nat} (late : limit ≤ start + span) : after? start span = none :=
  if_neg (Nat.not_lt.2 late)

/-- Whole milliseconds up to `t`. -/
def millis (t : Nat) : Nat := t / perMilli

/-- The first whole millisecond that is not before `t`: timers have this resolution. -/
def ceilMilli (t : Nat) : Nat := (t + (perMilli - 1)) / perMilli * perMilli

theorem le_ceilMilli (t : Nat) : t ≤ ceilMilli t := by
  unfold ceilMilli perMilli; omega

theorem ceilMilli_lt (t : Nat) : ceilMilli t < t + perMilli := by
  unfold ceilMilli perMilli; omega

theorem ceilMilli_mono {s t : Nat} (h : s ≤ t) : ceilMilli s ≤ ceilMilli t := by
  unfold ceilMilli perMilli; omega

/-- A whole number of milliseconds. -/
def Whole (t : Nat) : Prop := perMilli ∣ t

theorem whole_ofMillis (ms : Nat) : Whole (ofMillis ms) := Nat.dvd_mul_right perMilli ms

theorem Whole.add_mul {t i : Nat} (whole : Whole t) (interval : Whole i) (n : Nat) :
    Whole (t + i * n) :=
  Nat.dvd_add whole (Nat.dvd_mul_right_of_dvd interval n)

theorem ceilMilli_add {s : Nat} (whole : Whole s) (t : Nat) :
    ceilMilli (s + t) = s + ceilMilli t := by
  unfold Whole at whole
  unfold ceilMilli perMilli at *
  omega

theorem ceilMilli_of_whole {t : Nat} (whole : Whole t) : ceilMilli t = t := by
  have shifted := ceilMilli_add whole 0
  simpa [ceilMilli, perMilli] using shifted

/-- The digits of `n` after a decimal point that has `width` places, without trailing zeros. -/
private def places (width n : Nat) : String :=
  let digits := (Nat.toDigits 10 n).leftpad width '0'
  let kept := (digits.reverse.dropWhile (· == '0')).reverse
  if kept.isEmpty then "" else "." ++ String.ofList kept

/-- `t` in units of `unit` nanoseconds, where `unit` is `10 ^ width`. -/
private def inUnit (unit width : Nat) (suffix : String) (t : Nat) : String :=
  toString (t / unit) ++ places width (t % unit) ++ suffix

/-- A span in the largest of the units s, ms, µs and ns that does not exceed it. -/
def text (t : Nat) : String :=
  if perSecond ≤ t then inUnit perSecond 9 "s" t
  else if perMilli ≤ t then inUnit perMilli 6 "ms" t
  else if 1000 ≤ t then inUnit 1000 3 "µs" t
  else inUnit 1 0 "ns" t

end Time

/-- A configured span: fewer than `2 ^ 64` seconds, in nanoseconds. -/
structure Duration where
  nanos : Nat
  nanos_lt : nanos < UInt64.size * Time.perSecond
deriving DecidableEq

namespace Duration

/-- `n` nanoseconds, if that is short enough to be a duration. -/
def ofNanos? (n : Nat) : Option Duration :=
  if h : n < UInt64.size * Time.perSecond then some ⟨n, h⟩ else none

/-- A duration of `ms` milliseconds; every 64-bit count of them fits. -/
def ofMillis (ms : UInt64) : Duration where
  nanos := Time.ofMillis ms.toNat
  nanos_lt := by
    have := ms.toNat_lt
    unfold Time.ofMillis Time.perMilli Time.perSecond UInt64.size
    omega

/-- Whole seconds; they are counted in 64 bits. -/
def seconds (d : Duration) : Nat := d.nanos / Time.perSecond

/-- Nanoseconds beyond the whole seconds. -/
def beyond (d : Duration) : Nat := d.nanos % Time.perSecond

/-- The duration of so many seconds and nanoseconds, unless the seconds do not fit. -/
def ofParts? (seconds nanos : Nat) : Option Duration :=
  if seconds < UInt64.size then ofNanos? (seconds * Time.perSecond + nanos) else none

/-- `d` taken `n` times. Seconds and the nanoseconds beyond them are multiplied apart, and what the
nanoseconds come to is carried; nothing comes out if the seconds overflow before or after that. -/
def times? (d : Duration) (n : Nat) : Option Duration :=
  if d.seconds * n < UInt64.size then
    ofParts? (d.seconds * n + d.beyond * n / Time.perSecond) (d.beyond * n % Time.perSecond)
  else none

def text (d : Duration) : String := Time.text d.nanos

theorem ofNanos?_eq_some_iff {n : Nat} {e : Duration} : ofNanos? n = some e ↔ e.nanos = n := by
  unfold ofNanos?
  constructor
  · intro h
    split at h
    · exact (Option.some.inj h) ▸ rfl
    · exact absurd h (by simp)
  · intro h
    have := e.nanos_lt
    rw [h] at this
    rw [dif_pos this]
    cases e
    simp_all

/-- Splitting and carrying lose nothing. -/
theorem parts_times (d : Duration) (n : Nat) :
    (d.seconds * n + d.beyond * n / Time.perSecond) * Time.perSecond
      + d.beyond * n % Time.perSecond = d.nanos * n := by
  have whole := Nat.div_add_mod d.nanos Time.perSecond
  have carried := Nat.div_add_mod (d.beyond * n) Time.perSecond
  calc (d.seconds * n + d.beyond * n / Time.perSecond) * Time.perSecond
        + d.beyond * n % Time.perSecond
      = d.seconds * n * Time.perSecond + (Time.perSecond * (d.beyond * n / Time.perSecond)
          + d.beyond * n % Time.perSecond) := by
        rw [Nat.add_mul, Nat.mul_comm Time.perSecond, Nat.add_assoc]
    _ = (Time.perSecond * d.seconds + d.beyond) * n := by
        rw [carried, Nat.add_mul, Nat.mul_right_comm, Nat.mul_comm d.seconds]
    _ = d.nanos * n := congrArg (· * n) whole

/-- An overflow on the way means that the product is too long to be a duration. -/
theorem times?_eq_some_iff {d e : Duration} {n : Nat} :
    d.times? n = some e ↔ e.nanos = d.nanos * n := by
  have product := parts_times d n
  unfold times? ofParts?
  constructor
  · intro h
    split at h
    · split at h
      · exact (ofNanos?_eq_some_iff.1 h).trans product
      · cases h
    · cases h
  · intro same
    have short := e.nanos_lt
    have carried : d.seconds * n + d.beyond * n / Time.perSecond < UInt64.size := by
      refine Nat.lt_of_mul_lt_mul_right (a := Time.perSecond) ?_
      omega
    rw [if_pos (Nat.lt_of_le_of_lt (Nat.le_add_right ..) carried), if_pos carried]
    exact ofNanos?_eq_some_iff.2 (same.trans product.symm)

end Duration

end BrokerRollout
