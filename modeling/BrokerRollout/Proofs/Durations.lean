import BrokerRollout.Proofs.Capture
import BrokerRollout.Proofs.Schedule

/-!
# How long activities last

A pace bounds every single call, and says by which steps the clock advances. `Sim.Lasts` gives the
calls of an activity together with a time it does not exceed where its calls keep the pace, with one
rule for each way to build one. Main statement: a poll is over one call after its window has closed
(`Poll.run_lasts`).
-/

namespace BrokerRollout

variable {σ π ε α β : Type}

/-- How long a call goes on after its answer: a session has to end. -/
def Call.lasted : Call → Nat
  | .openSession _ (.ok session) => session.took
  | _ => 0

theorem Call.lasted_openSession (request : Exec.Request) (answer : Except Exec.Error Exec.Session) :
    (Call.openSession request answer).lasted =
      (answer.toOption.map Exec.Session.took).getD 0 := by
  cases answer <;> rfl

def Entry.took (e : Entry) : Nat := e.ended - e.began + e.call.lasted

/-- The calls that an activity adds to the journal, with their times. -/
def Sim.entriesOf (x : Sim σ α) (w : World σ) : List Entry :=
  (x.run w).2.journal.drop w.journal.length

/-- A call takes as long as its reply, and as the session it opens. -/
theorem History.took {b : Backend σ} {w w' : World σ} {calls : List Call}
    (h : History b w calls w') {e : Entry} (member : e ∈ w'.journal.drop w.journal.length) :
    ∃ now state ask, e.took =
      (b.reply now state ask).took + (b.reply now state ask).answer.lasted := by
  induction h with
  | done => simp at member
  | pause _ _ _ _ ih => exact ih member
  | @call w _ _ ask rest ih =>
    obtain ⟨entries, grown, -⟩ := rest.journal
    rw [grown, World.after, List.append_assoc, List.drop_left] at member
    rcases List.mem_cons.1 member with rfl | later
    · exact ⟨w.now, w.state, ask, by rw [Entry.took, Nat.add_sub_cancel_left]⟩
    · rw [grown, List.drop_left] at ih
      exact ih later

/-- A bound on single calls, for a clock that advances by multiples of `tick`. -/
structure Pace where
  limit : Nat
  tick : Nat
  ticks : tick ∣ Time.perMilli
  /-- When a timer goes off that is set, by this clock, for the end of a span. -/
  wake : Nat → Nat
  wakes : ∀ {start : Nat}, tick ∣ start → ∀ span, Time.ceilMilli (start + span) ≤ start + wake span

namespace Pace

/-- All durations are whole milliseconds. -/
def whole (limit : Nat) : Pace where
  limit
  tick := Time.perMilli
  ticks := Nat.dvd_refl _
  wake := Time.ceilMilli
  wakes start span := Nat.le_of_eq (Time.ceilMilli_add start span)

/-- Calls may take any time, and timers are late by less than a millisecond. -/
def any (limit : Nat) : Pace where
  limit
  tick := 1
  ticks := Nat.one_dvd _
  wake span := span + (Time.perMilli - 1)
  wakes := by
    intro start _ span
    have late := Time.ceilMilli_lt (start + span)
    unfold Time.perMilli at *
    omega

def Keeps (c : Pace) (e : Entry) : Prop := c.tick ∣ e.took ∧ e.took ≤ c.limit

theorem dvd_max (c : Pace) {s t : Nat} (first : c.tick ∣ s) (second : c.tick ∣ t) :
    c.tick ∣ max s t := by
  rcases Nat.le_total s t with later | later
  · rwa [Nat.max_eq_right later]
  · rwa [Nat.max_eq_left later]

theorem dvd_ceilMilli (c : Pace) (t : Nat) : c.tick ∣ Time.ceilMilli t :=
  Nat.dvd_trans c.ticks (Nat.dvd_mul_left ..)

end Pace

namespace Sim

/-- The calls of the activity, and a bound on the time it takes if they keep the pace. -/
def Lasts (c : Pace) (x : Sim σ α) (Q : α → List Call → Nat → Prop) : Prop :=
  ∀ w, ∃ entries bound, (x.run w).2.journal = w.journal ++ entries ∧
    (c.tick ∣ w.now → (∀ e ∈ entries, c.Keeps e) →
      c.tick ∣ (x.run w).2.now ∧ (x.run w).2.now ≤ w.now + bound) ∧
    Q (x.run w).1 (entries.map Entry.call) bound

namespace Lasts

variable {c : Pace} {x : Sim σ α} {P Q : α → List Call → Nat → Prop}

theorem mono (h : Lasts c x P) (weaker : ∀ a calls n, P a calls n → Q a calls n) :
    Lasts c x Q := by
  intro w
  obtain ⟨entries, n, grown, bounded, holds⟩ := h w
  exact ⟨entries, n, grown, bounded, weaker _ _ _ holds⟩

theorem pure {a : α} (h : Q a [] 0) : Lasts c (Pure.pure a : Sim σ α) Q :=
  fun w => ⟨[], 0, (List.append_nil w.journal).symm, fun tick _ => ⟨tick, Nat.le_refl _⟩, h⟩

theorem bind {f : α → Sim σ β} {Q : β → List Call → Nat → Prop} (first : Lasts c x P)
    (next : ∀ a calls n, P a calls n →
      Lasts c (f a) fun b more m => Q b (calls ++ more) (n + m)) :
    Lasts c (x >>= f) Q := by
  intro w
  obtain ⟨entries, n, grown, bounded, holds⟩ := first w
  obtain ⟨more, m, later, ends, result⟩ := next _ _ _ holds (x.run w).2
  refine ⟨entries ++ more, n + m, ?_, fun tick keeps => ?_, ?_⟩
  · rw [← List.append_assoc, ← grown]
    exact later
  · obtain ⟨kept, rest⟩ := List.forall_mem_append.1 keeps
    obtain ⟨middle, early⟩ := bounded tick kept
    obtain ⟨final, late⟩ := ends middle rest
    exact ⟨final, Nat.le_trans late (by omega)⟩
  · rw [List.map_append]
    exact result

theorem bind_pure {f : α → Sim σ β} {Q : β → List Call → Nat → Prop} (first : Lasts c x P)
    (next : ∀ a calls n, P a calls n → ∃ b, f a = Pure.pure b ∧ Q b calls n) :
    Lasts c (x >>= f) Q := by
  refine first.bind fun a calls n holds => ?_
  obtain ⟨b, same, result⟩ := next a calls n holds
  rw [same]
  exact Lasts.pure (by rwa [List.append_nil])

/-- The calls are those of the activity's history. -/
theorem and_acts {b : Backend σ} {P : α → List Call → Prop} (h : Lasts c x Q) (acts : Acts b x P) :
    Lasts c x fun a calls n => P a calls ∧ Q a calls n := by
  intro w
  obtain ⟨entries, n, grown, bounded, holds⟩ := h w
  obtain ⟨calls, past, acted⟩ := acts w
  obtain ⟨entries', grown', rfl⟩ := past.journal
  obtain rfl : entries' = entries := List.append_cancel_left (grown'.symm.trans grown)
  exact ⟨entries', n, grown, bounded, acted, holds⟩

end Lasts

/-! ### Single steps -/

variable {c : Pace}

theorem call_lasts (ask : Nat → σ → Reply σ α) (toCall : α → Call)
    (brief : ∀ a, (toCall a).lasted = 0) : Lasts c (call ask toCall) fun _ _ n => n = c.limit := by
  intro w
  let reply := ask w.now w.state
  refine ⟨[⟨toCall reply.answer, w.now, w.now + reply.took, reply.sent⟩], c.limit, rfl, ?_, rfl⟩
  intro tick keeps
  obtain ⟨whole, short⟩ := keeps _ (List.mem_singleton_self _)
  rw [Entry.took, brief, Nat.add_zero, Nat.add_sub_cancel_left] at whole short
  exact ⟨Nat.dvd_add tick whole, Nat.add_le_add_left short _⟩

theorem create_lasts (s : Store σ) (resource : Resource) :
    Lasts c (create s resource) fun _ _ n => n = c.limit :=
  call_lasts _ _ fun _ => rfl

theorem read_lasts (s : Store σ) (ref : Ref) : Lasts c (read s ref) fun _ _ n => n = c.limit :=
  call_lasts _ _ fun _ => rfl

theorem delete_lasts (s : Store σ) (ref : Ref) : Lasts c (delete s ref) fun _ _ n => n = c.limit :=
  call_lasts _ _ fun _ => rfl

theorem exec_lasts (e : Exec.Endpoint σ) (request : Exec.Request) :
    Lasts c (exec e request) fun _ _ n => n = c.limit := by
  intro w
  let reply := e.openSession request w.now w.state
  let entry : Entry := ⟨.openSession request reply.answer, w.now, w.now + reply.took, reply.sent⟩
  have took : w.now + entry.took =
      w.now + reply.took + (reply.answer.toOption.map Exec.Session.took).getD 0 := by
    rw [Entry.took, Nat.add_sub_cancel_left, Call.lasted_openSession, Nat.add_assoc]
  have ended : ((exec e request).run w).2.now = w.now + entry.took := by
    rw [exec_run, World.over_now, took]
    rfl
  have grown : ((exec e request).run w).2.journal = w.journal ++ [entry] := by
    rw [exec_run, World.over_journal]
    rfl
  refine ⟨[entry], c.limit, grown, fun tick keeps => ?_, rfl⟩
  obtain ⟨whole, short⟩ := keeps entry (List.mem_singleton_self _)
  rw [ended]
  exact ⟨Nat.dvd_add tick whole, Nat.add_le_add_left short _⟩

end Sim

/-! ### Polls -/

namespace Poll

variable {c : Pace} {w : Window} {attempt : Probing π σ (Except ε α)} {start : Nat}

/-- An attempt that begins by the end of the window is followed by no other that begins later. -/
theorem Resumed.ends {made : Nat} {m m' : π} {world after : World σ} {ending : Ending ε α}
    (h : Resumed w attempt start made m world ending m' after)
    (quick : ∀ m, Sim.Lasts c (attempt.run m) fun _ _ n => n = c.limit)
    (early : world.now ≤ Time.ceilMilli (start + w.timeout.nanos)) :
    ∃ entries, after.journal = world.journal ++ entries ∧
      (c.tick ∣ world.now → (∀ e ∈ entries, c.Keeps e) → c.tick ∣ after.now ∧
        after.now ≤ Time.ceilMilli (start + w.timeout.nanos) + c.limit) := by
  -- The last attempt keeps to the bound if it begins early enough.
  have tried {m m' : π} {world after : World σ} {result : Except ε α}
      (ran : (attempt.run m).run world = ((result, m'), after))
      (early : world.now ≤ Time.ceilMilli (start + w.timeout.nanos)) :
      ∃ entries, after.journal = world.journal ++ entries ∧
        (c.tick ∣ world.now → (∀ e ∈ entries, c.Keeps e) → c.tick ∣ after.now ∧
          after.now ≤ Time.ceilMilli (start + w.timeout.nanos) + c.limit) := by
    obtain ⟨entries, _, grown, bounded, rfl⟩ := quick m world
    rw [ran] at grown bounded
    refine ⟨entries, grown, fun tick keeps => ?_⟩
    obtain ⟨ticks, late⟩ := bounded tick keeps
    exact ⟨ticks, Nat.le_trans late (Nat.add_le_add_right early _)⟩
  -- The sleeper for the next slot wakes up by the end of the window.
  have wakes {made : Nat} {after : World σ} (opened : ¬w.Closed (made + 1) (after.now - start)) :
      (awake w start (made + 1) after).now ≤ Time.ceilMilli (start + w.timeout.nanos) := by
    unfold Window.Closed at opened
    have slot := Time.ceilMilli_mono (Nat.add_le_add_left
      (Window.le_slots_iff.1 (show made + 1 ≤ w.slots by omega)) start)
    have rounded := Time.le_ceilMilli (start + w.timeout.nanos)
    exact Nat.max_le.2 ⟨by omega, slot⟩
  induction h with
  | held ran | exhausted ran | stranded ran => exact tried ran early
  | uncounted ran opened =>
    obtain ⟨entries, grown, bounded⟩ := tried ran early
    refine ⟨entries, grown, fun tick keeps => ⟨?_, ?_⟩⟩
    · exact c.dvd_max (bounded tick keeps).1 (c.dvd_ceilMilli _)
    · exact Nat.le_trans (wakes opened) (Nat.le_add_right ..)
  | retried ran opened _ _ _ ih =>
    obtain ⟨entries, grown, bounded⟩ := tried ran early
    obtain ⟨more, later, ends⟩ := ih (wakes opened)
    refine ⟨entries ++ more, ?_, fun tick keeps => ?_⟩
    · rw [later, ← List.append_assoc, ← grown]
      rfl
    · obtain ⟨kept, rest⟩ := List.forall_mem_append.1 keeps
      exact ends (c.dvd_max (bounded tick kept).1 (c.dvd_ceilMilli _)) rest

/-- The last attempt begins by the end of the window, however long the others took. -/
theorem run_lasts (quick : ∀ m, Sim.Lasts c (attempt.run m) fun _ _ n => n = c.limit) (w : Window)
    (m : π) :
    Sim.Lasts c ((run w attempt).run m) fun _ _ n => n = c.wake w.timeout.nanos + c.limit := by
  intro world
  have early : world.now ≤ Time.ceilMilli (world.now + w.timeout.nanos) :=
    Nat.le_trans (Nat.le_add_right ..) (Time.le_ceilMilli _)
  obtain ⟨entries, grown, ends⟩ := (run_resumed rfl).ends quick early
  refine ⟨entries, _, grown, fun tick keeps => ?_, rfl⟩
  obtain ⟨final, late⟩ := ends tick keeps
  have wakes := c.wakes tick w.timeout.nanos
  refine ⟨final, Nat.le_trans late ?_⟩
  omega

end Poll

theorem ReadyProbe.attempt_lasts {c : Pace} (s : Store σ) (m : ReadyProbe) :
    Sim.Lasts c ((attempt s).run m) fun _ _ n => n = c.limit := by
  rw [attempt_run]
  exact (Sim.read_lasts s m.cluster).bind_pure fun _ _ _ bound => ⟨_, rfl, bound⟩

theorem PersistedProbe.attempt_lasts {c : Pace} (s : Store σ) (m : PersistedProbe) :
    Sim.Lasts c ((attempt s).run m) fun _ _ n => n = c.limit := by
  rw [attempt_run]
  exact (Sim.read_lasts s m.ref).bind_pure fun _ _ _ bound => ⟨_, rfl, bound⟩

theorem WorkerProbe.attempt_lasts {c : Pace} (e : Exec.Endpoint σ) (m : WorkerProbe) :
    Sim.Lasts c ((attempt e).run m) fun _ _ n => n = c.limit := by
  rw [attempt_run]
  exact (Sim.exec_lasts e m.request).bind_pure fun _ _ _ bound => ⟨_, rfl, bound⟩

end BrokerRollout
