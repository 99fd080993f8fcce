import BrokerRollout.Proofs.Punctual

/-!
# Polls with a longer timeout

A longer timeout only adds attempts at the end of a poll. Two polls of the same interval whose
attempts take as long and come out the same make the same attempts, as far as the shorter one goes,
unless the clock stops one of them alone. Main statement: `Poll.run_longer`.
-/

namespace BrokerRollout

variable {σ σ' π π' ε α : Type}

theorem Time.ceilMilli_sub (s t : Nat) :
    ceilMilli (s + t) - s = ceilMilli (s % perMilli + t) - s % perMilli := by
  unfold ceilMilli perMilli
  omega

/-- What is closed for a timeout is so for a shorter one. -/
theorem Window.Closed.of_longer {w w' : Window} {attempts elapsed : Nat}
    (closed : w'.Closed attempts elapsed) (interval : w'.interval = w.interval)
    (timeout : w.timeout.nanos ≤ w'.timeout.nanos) : w.Closed attempts elapsed := by
  have fewer : w.slots ≤ w'.slots := by
    rw [slots, slots, interval]
    exact Nat.div_le_div_right timeout
  unfold Closed at closed ⊢
  omega

namespace Poll

variable {w w' : Window} {reached reached' : Nat → Prop} {wake : Nat → Nat} {start start' made : Nat}
  {a a' : Attempt ε α} {log log' : List (Attempt ε α)} {ending ending' : Ending ε α}

/-- Timers do not distinguish points that are whole milliseconds apart. -/
theorem wakes_congr (interval : w'.interval = w.interval)
    (phase : start' % Time.perMilli = start % Time.perMilli) : wakes w' start' = wakes w start := by
  funext k
  rw [wakes, wakes, interval, Time.ceilMilli_sub, phase, ← Time.ceilMilli_sub]

/-- Attempts of the same number take as long and come out the same. -/
def Alike (log log' : List (Attempt ε α)) : Prop :=
  ∀ k (h : k < log.length) (h' : k < log'.length),
    log[k].took = log'[k].took ∧ log[k].outcome = log'[k].outcome

theorem Alike.head (alike : Alike (a :: log) (a' :: log')) (began : a.began = a'.began) : a = a' :=
  have same := alike 0 (Nat.succ_pos _) (Nat.succ_pos _)
  Attempt.ext began same.1 same.2

theorem Alike.tail (alike : Alike (a :: log) (a' :: log')) : Alike log log' :=
  fun k h h' => alike (k + 1) (Nat.succ_lt_succ h) (Nat.succ_lt_succ h')

theorem Plays.alike {attempt : Probing π σ (Except ε α)} {attempt' : Probing π' σ' (Except ε α)}
    {turns : Nat → Nat × Except ε α} {inv : Nat → π → σ → Prop} {inv' : Nat → π' → σ' → Prop}
    {m last : π} {m' last' : π'} {world after : World σ} {world' after' : World σ'}
    (plays : Plays attempt turns inv) (plays' : Plays attempt' turns inv')
    (made : Attempts attempt start m world log last after)
    (made' : Attempts attempt' start' m' world' log' last' after')
    (begins : inv 0 m world.state) (begins' : inv' 0 m' world'.state) : Alike log log' := by
  intro k h h'
  exact Prod.mk.inj (((plays.attempts made begins).2 k h).trans
    ((plays'.attempts made' begins').2 k h').symm)

/-- What a longer timeout makes of a poll. -/
structure Extends (log log' : List (Attempt ε α)) (ending ending' : Ending ε α) : Prop where
  attempts : log <+: log'
  held : ∀ value, ending = .ok (.ok value) → ending' = .ok (.ok value) ∧ log' = log
  exhausted : ∀ late, ending' = .ok (.error late) → ∃ early, ending = .ok (.error early) ∧
    early.attempts ≤ late.attempts ∧ early.elapsed ≤ late.elapsed
  panicked : ∀ panic, ending = .error panic → ending' = .error panic ∧ log' = log

/-- The clock does not make a difference between two polls: it reaches the same slots of both, or
neither panics. -/
def InStep (reached reached' : Nat → Prop) (ending ending' : Ending ε α) : Prop :=
  (∀ k, reached' k ↔ reached k) ∨
    ∃ outcome outcome', ending = .ok outcome ∧ ending' = .ok outcome'

/-- No attempt lies behind the end of an exhausted poll. -/
theorem Paced.lasts {late : Exhausted ε}
    (h : Paced w reached wake made (a :: log) (.ok (.error late))) :
    made + 1 ≤ late.attempts ∧ a.ended ≤ late.elapsed := by
  generalize chain : a :: log = attempts, result : Except.ok (Except.error late) = ending at h
  induction h generalizing a log with
  | last ends =>
    cases chain
    cases ends with
    | exhausted =>
      cases result
      exact ⟨Nat.le_refl _, Nat.le_refl _⟩
    | held | stranded | uncounted => cases result
  | @retried made first next more ending error failed opened inside counted resumed later ih =>
    cases chain
    obtain ⟨count, ended⟩ := ih rfl result
    unfold Attempt.ended at *
    omega

/-- Two polls that have come to the same attempt in vain with their windows open go on alike. -/
theorem Paced.opened_alike {error : ε} (failed : a.outcome = .error error)
    (opened : ¬w'.Closed (made + 1) a.ended) (h' : Paced w' reached' wake made (a :: log') ending') :
    (¬reached' (made + 1) ∧ log' = [] ∧ ending' = .error .instant) ∨
    (reached' (made + 1) ∧ Window.maxCount ≤ made + 1 ∧ log' = [] ∧ ending' = .error .count) ∨
    (reached' (made + 1) ∧ made + 1 < Window.maxCount ∧ ∃ next more, log' = next :: more ∧
      next.began = max a.ended (wake (made + 1)) ∧
      Paced w' reached' wake (made + 1) (next :: more) ending') := by
  cases h' with
  | last ends =>
    cases ends with
    | held passed => cases failed.symm.trans passed
    | exhausted _ closed => exact absurd closed opened
    | stranded _ _ beyond => exact .inl ⟨beyond, rfl, rfl⟩
    | uncounted _ _ inside full => exact .inr (.inl ⟨inside, full, rfl, rfl⟩)
  | retried _ _ inside counted resumed later =>
    exact .inr (.inr ⟨inside, counted, _, _, rfl, resumed, later⟩)

theorem Paced.extends (interval : w'.interval = w.interval)
    (timeout : w.timeout.nanos ≤ w'.timeout.nanos)
    (h : Paced w reached wake made (a :: log) ending)
    (h' : Paced w' reached' wake made (a' :: log') ending')
    (clocks : InStep reached reached' ending ending') (began : a.began = a'.began)
    (alike : Alike (a :: log) (a' :: log')) : Extends (a :: log) (a' :: log') ending ending' := by
  -- The polls stay together until the shorter one ends; the longer one cannot end before.
  generalize chain : a :: log = attempts at h
  induction h generalizing a log a' log' with
  | @last made first ending ends =>
    cases chain
    obtain rfl := alike.head began
    cases ends with
    | held passed =>
      cases h' with
      | last ends' =>
        cases ends' with
        | held passed' =>
          obtain rfl := Except.ok.inj (passed.symm.trans passed')
          exact ⟨List.prefix_rfl, fun _ same => ⟨same, rfl⟩, nofun, nofun⟩
        | exhausted failed' | stranded failed' | uncounted failed' =>
          cases passed.symm.trans failed'
      | retried failed' => cases passed.symm.trans failed'
    | exhausted failed closed =>
      refine ⟨⟨log', rfl⟩, nofun, ?_, nofun⟩
      rintro late rfl
      exact ⟨_, rfl, h'.lasts⟩
    | stranded failed opened beyond =>
      obtain same | ⟨_, _, ⟨⟩, -⟩ := clocks
      have going := h'.opened_alike failed fun closed => opened (closed.of_longer interval timeout)
      obtain ⟨-, rfl, rfl⟩ | ⟨inside, -⟩ | ⟨inside, -⟩ := going
      · exact ⟨List.prefix_rfl, nofun, nofun, fun _ panics => ⟨panics, rfl⟩⟩
      all_goals exact absurd ((same _).1 inside) beyond
    | uncounted failed opened inside full =>
      obtain same | ⟨_, _, ⟨⟩, -⟩ := clocks
      have going := h'.opened_alike failed fun closed => opened (closed.of_longer interval timeout)
      obtain ⟨beyond, -⟩ | ⟨-, -, rfl, rfl⟩ | ⟨-, counted, -⟩ := going
      · exact absurd ((same _).2 inside) beyond
      · exact ⟨List.prefix_rfl, nofun, nofun, fun _ panics => ⟨panics, rfl⟩⟩
      · exact absurd full (Nat.not_le_of_lt counted)
  | @retried made first next more ending error failed opened inside counted resumed later ih =>
    cases chain
    obtain rfl := alike.head began
    have going := h'.opened_alike failed fun closed => opened (closed.of_longer interval timeout)
    obtain ⟨beyond, -, rfl⟩ | ⟨-, full, -⟩ | ⟨-, -, next', more', rfl, resumed', later'⟩ := going
    · obtain same | ⟨_, _, -, ⟨⟩⟩ := clocks
      exact absurd ((same _).2 inside) beyond
    · exact absurd full (Nat.not_le_of_lt counted)
    · obtain ⟨attempts, held, exhausted, panicked⟩ :=
        ih later' clocks (resumed.trans resumed'.symm) alike.tail rfl
      refine ⟨List.cons_prefix_cons.2 ⟨rfl, attempts⟩, fun value same => ?_, exhausted,
        fun panic same => ?_⟩
      · obtain ⟨passes, equal⟩ := held value same
        exact ⟨passes, congrArg _ equal⟩
      · obtain ⟨panics, equal⟩ := panicked panic same
        exact ⟨panics, congrArg _ equal⟩

variable {attempt : Probing π σ (Except ε α)} {attempt' : Probing π' σ' (Except ε α)}

/-- Two polls of the same interval make the same attempts, as long as these take as long and come
out the same; the one with the longer timeout may make some more. So it succeeds like the other, and
if it fails, then not before the other. They need not begin together, but sleepers of both have to
wake up in step; polls that begin apart have to return, for the clock may end for one of them before
the other. -/
theorem run_longer (interval : w'.interval = w.interval)
    (timeout : w.timeout.nanos ≤ w'.timeout.nanos) (forward : attempt.Forward)
    (forward' : attempt'.Forward) (m : π) (m' : π') (world : World σ) (world' : World σ')
    (phase : world'.now % Time.perMilli = world.now % Time.perMilli) :
    ∃ log ending last final after log' ending' last' final' after',
      ((run w attempt).run m).run world = ((ending, last), after) ∧
      ((run w' attempt').run m').run world' = ((ending', last'), after') ∧
      (Attempts attempt world.now m world log last final ∧
        Paced w (Reached w world.now) (wakes w world.now) 0 log ending) ∧
      (Attempts attempt' world'.now m' world' log' last' final' ∧
        Paced w' (Reached w' world'.now) (wakes w' world'.now) 0 log' ending') ∧
      (Alike log log' →
        (world'.now = world.now ∨ ∃ outcome outcome', ending = .ok outcome ∧ ending' = .ok outcome') →
          Extends log log' ending ending' ∧ ∀ value, ending = .ok (.ok value) →
            after'.now - world'.now = after.now - world.now) := by
  obtain ⟨⟨⟨ending, last⟩, after⟩, ran⟩ : ∃ out, ((run w attempt).run m).run world = out :=
    ⟨_, rfl⟩
  obtain ⟨⟨⟨ending', last'⟩, after'⟩, ran'⟩ :
      ∃ out, ((run w' attempt').run m').run world' = out := ⟨_, rfl⟩
  obtain ⟨log, final, made, paced, left⟩ := (run_resumed ran).paced forward (Nat.le_refl _)
  obtain ⟨log', final', made', paced', left'⟩ := (run_resumed ran').paced forward' (Nat.le_refl _)
  refine ⟨log, ending, last, final, after, log', ending', last', final', after', ran, ran',
    ⟨made, paced⟩, ⟨made', paced'⟩, fun alike together => ?_⟩
  have clocks : InStep (Reached w world.now) (Reached w' world'.now) ending ending' :=
    together.imp_left fun same k => by rw [Reached, Reached, same, interval]
  obtain ⟨first, more, rfl, start⟩ := made.head
  obtain ⟨first', more', rfl, start'⟩ := made'.head
  rw [wakes_congr interval phase] at paced'
  have grows := paced.extends interval timeout paced' clocks (by omega) alike
  refine ⟨grows, ?_⟩
  rintro value rfl
  obtain ⟨rfl, same⟩ := grows.held value rfl
  obtain ⟨a, place, -⟩ := paced.conclusion
  have ended := made.ended a place
  have ended' := made'.ended a (same ▸ place)
  rw [left nofun, left' nofun]
  omega

/-- A worker takes twelve seconds to say that it is busy. It is asked each ten seconds, for twenty
or for thirty. -/
theorem run_longer_slow :
    let endpoint : Exec.Endpoint Unit := { openSession := fun request _ state =>
      { answer := .error (.setup request.worker "busy"), state, took := Time.ofMillis 12000 } }
    let attempt := WorkerProbe.attempt (MemoryStore.backend endpoint).endpoint
    let probe : WorkerProbe :=
      { request := { worker := "w", ns := "n", container := "c", argv := [] }, markers := [] }
    let world : World (MemoryStore × Unit) := { state := ({}, ()) }
    let short : Window := ⟨.ofMillis 20000, .ofMillis 10000, by decide⟩
    let long : Window := ⟨.ofMillis 30000, .ofMillis 10000, by decide⟩
    let polled (w : Window) := ((run w attempt).run probe).run world
    long.interval = short.interval ∧ short.timeout.nanos ≤ long.timeout.nanos ∧
      attempt.Forward ∧
      ∃ (log log' : List (Attempt WorkerError Exec.Output)) (early late : Exhausted WorkerError),
        (polled short).1.1 = .ok (.error early) ∧ (polled long).1.1 = .ok (.error late) ∧
        Paced short (Reached short 0) (wakes short 0) 0 log (.ok (.error early)) ∧
        Paced long (Reached long 0) (wakes long 0) 0 log' (.ok (.error late)) ∧ Alike log log' ∧
        log <+: log' ∧ early.attempts ≤ late.attempts ∧ early.elapsed ≤ late.elapsed := by
  intro endpoint attempt probe world short long polled
  have interval : long.interval = short.interval := rfl
  have timeout : short.timeout.nanos ≤ long.timeout.nanos := by decide
  have forward : attempt.Forward := WorkerProbe.attempt_forward _
  let busy : Exec.Error := .setup "w" "busy"
  have plays : Plays attempt
      (fun _ => (Time.ofMillis 12000, .error (.exec "w" busy (.failed busy))))
      fun _ p _ => p.request = probe.request ∧ p.markers = [] := by
    rintro k ⟨_, _, tries⟩ world ⟨rfl, rfl⟩
    exact ⟨⟨probe.request, [], tries + 1⟩, ((attempt.run _).run world).2, rfl, rfl, rfl, rfl⟩
  obtain ⟨log, ending, _, _, _, log', ending', _, _, _, ran, ran', ⟨made, paced⟩, ⟨made', paced'⟩,
      grows⟩ :=
    run_longer interval timeout forward forward probe probe world world rfl
  have alike := plays.alike plays made made' ⟨rfl, rfl⟩ ⟨rfl, rfl⟩
  obtain ⟨attempts, -, exhausted, -⟩ := (grows alike (.inl rfl)).1
  have inside : Reached long world.now long.slots := by decide
  obtain ⟨late | value, rfl⟩ := paced'.returns (fun _ => inside.mono) (by decide)
  · obtain ⟨early, rfl, fewer, sooner⟩ := exhausted late rfl
    exact ⟨interval, timeout, forward, log, log', early, late, congrArg (·.1.1) ran,
      congrArg (·.1.1) ran', paced, paced', alike, attempts, fewer, sooner⟩
  · obtain ⟨last, place, ends⟩ := paced'.conclusion
    cases ends with
    | held passed =>
      obtain ⟨i, within, rfl⟩ := List.getElem_of_mem (List.mem_of_getLast? place)
      have turn := (plays.attempts made' (k := 0) ⟨rfl, rfl⟩).2 i within
      cases passed.symm.trans (Prod.mk.inj turn).2

end Poll

end BrokerRollout
