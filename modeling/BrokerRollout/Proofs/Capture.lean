import BrokerRollout.Proofs.History

/-!
# What a command leaves behind

The parts of a session end at their own times, and its channels bring their bytes in pieces; its
input takes its own time to close. What is captured of a command depends on none of that. Main
statement: `Sim.exec_captures`.
-/

namespace BrokerRollout

open Exec (Session Output)

variable {σ : Type}

namespace Exec.Session

/-- The output holds all bytes of both channels, and one error: that of the command before that of
its first channel before that of the second. -/
structure Leaves (s : Session) (o : Output) : Prop where
  stdout : o.stdout = (s.stdout.map fun c => c.chunks.flatMap (·.2)).getD []
  stderr : o.stderr = (s.stderr.map fun c => c.chunks.flatMap (·.2)).getD []
  failed : ∀ e, s.outcome = .error e → o.error = some e
  unread : s.outcome = .ok () → ∀ text, s.stdout.bind (·.fault) = some text →
    o.error = some (.aborted ("stdout: " ++ text))
  unreadErrors : s.outcome = .ok () → s.stdout.bind (·.fault) = none →
    ∀ text, s.stderr.bind (·.fault) = some text → o.error = some (.aborted ("stderr: " ++ text))
  clean : s.outcome = .ok () → s.stdout.bind (·.fault) = none → s.stderr.bind (·.fault) = none →
    o.error = none

/-- Both sessions bring the same bytes and end alike, in whatever chunks and after whatever waits, and
however their inputs close. -/
structure SentAlike (s s' : Session) : Prop where
  stdout : (s.stdout.map Channel.bytes).getD [] = (s'.stdout.map Channel.bytes).getD []
  stderr : (s.stderr.map Channel.bytes).getD [] = (s'.stderr.map Channel.bytes).getD []
  stdoutFault : s.stdout.bind (·.fault) = s'.stdout.bind (·.fault)
  stderrFault : s.stderr.bind (·.fault) = s'.stderr.bind (·.fault)
  outcome : s.outcome = s'.outcome

theorem leaves_output (s : Session) : s.Leaves s.output where
  stdout := rfl
  stderr := rfl
  failed := by
    intro e failed
    simp only [output, failed, Error.ofParts?]
  unread := by
    intro ended text fault
    simp only [output, ended, fault, Error.ofParts?]
  unreadErrors := by
    intro ended read text fault
    simp only [output, ended, read, fault, Error.ofParts?]
  clean := by
    intro ended read readErrors
    simp only [output, ended, read, readErrors, Error.ofParts?]

theorem SentAlike.output_eq {s s' : Session} (alike : s.SentAlike s') : s.output = s'.output := by
  simp only [output, alike.stdout, alike.stderr, alike.stdoutFault, alike.stderrFault, alike.outcome]

/-- When a part of a session that was opened at `now` is over, if it ends `span` later: the input is
closed first, and no part is waited for before that. -/
def overAt (s : Session) (now span : Nat) : Nat := max (now + s.closing) (now + span)

/-- The time at which the last part of a session that was opened at `now` is over. -/
def endsAt (s : Session) (now : Nat) : Nat :=
  max (max (s.overAt now ((s.stdout.map Channel.took).getD 0))
    (s.overAt now ((s.stderr.map Channel.took).getD 0))) (s.overAt now s.exitTook)

theorem add_took (s : Session) (now : Nat) : now + s.took = s.endsAt now := by
  unfold took endsAt overAt
  omega

end Exec.Session

/-- The world when a session is over that was opened, or was not, in `opened`. An attached input was
shut down as soon as the session was open. -/
def World.over (opened : World σ) : Except Exec.Error Session → World σ
  | .ok session => { opened with
      now := session.endsAt opened.now
      shutdowns := opened.shutdowns ++ session.stdin.toList.map fun _ => opened.now }
  | .error _ => opened

namespace World

variable (opened : World σ) (opening : Except Exec.Error Session)

@[simp] theorem over_state : (opened.over opening).state = opened.state := by
  cases opening <;> rfl

@[simp] theorem over_journal : (opened.over opening).journal = opened.journal := by
  cases opening <;> rfl

theorem over_now : (opened.over opening).now =
    opened.now + (opening.toOption.map Session.took).getD 0 := by
  cases opening with
  | error _ => rfl
  | ok session => exact (session.add_took opened.now).symm

end World

namespace Sim

/-- A command lasts as long as its session takes to open, and as the session itself. -/
theorem exec_run (e : Exec.Endpoint σ) (request : Exec.Request) (w : World σ) :
    let opening := (openSession e request).run w
    (exec e request).run w = (.ofOpening opening.1, opening.2.over opening.1) := by
  obtain ⟨⟨opening, opened⟩, opens⟩ : ∃ out, (openSession e request).run w = out := ⟨_, rfl⟩
  rw [exec_eq, run_bind_of opens, opens]
  cases opening with
  | error _ => rfl
  | ok session =>
    dsimp only [World.over]
    rw [← session.add_took]
    rfl

/-- A command leaves behind what its session brings, however that is cut up and whenever it comes.
Its input is shut down at once, with no difference to what is captured, and it is over as soon as the
last part of the session is. -/
theorem exec_captures (e : Exec.Endpoint σ) (request : Exec.Request) (w : World σ) :
    let opening := (openSession e request).run w
    let captured := (exec e request).run w
    match opening.1 with
    | .error reason => captured = ({ stdout := [], stderr := [], error := some reason }, opening.2)
    | .ok session =>
      session.Leaves captured.1 ∧
        captured.2 = { opening.2 with
          now := session.endsAt opening.2.now
          shutdowns := opening.2.shutdowns ++ session.stdin.toList.map fun _ => opening.2.now } ∧
        ∀ {τ : Type} (e' : Exec.Endpoint τ) (request' : Exec.Request) (w' : World τ)
          (session' : Session), ((openSession e' request').run w').1 = .ok session' →
            session.SentAlike session' → ((exec e' request').run w').1 = captured.1 := by
  intro opening captured
  obtain ⟨⟨reason | session, opened⟩, opens⟩ : ∃ out, (openSession e request).run w = out :=
    ⟨_, rfl⟩
  · have here : captured = (.failed reason, opened) := by
      rw [show captured = _ from exec_run e request w, opens]
      rfl
    simp only [opening, opens]
    exact here
  · have here : captured = (session.output, opened.over (.ok session)) := by
      rw [show captured = _ from exec_run e request w, opens]
      rfl
    simp only [opening, opens, here]
    refine ⟨session.leaves_output, rfl, ?_⟩
    intro τ e' request' w' session' opens' alike
    rw [exec_run, opens', alike.output_eq]
    rfl

/-- Three bytes in two chunks are captured as if they had come at once, and are waited for. So is an
input that takes longer to close, and fails to. -/
theorem exec_captures_slow :
    let slow : Session := {
      stdin := some { took := 20, answer := .error "closed" }
      stdout := some ⟨[(5, [1]), (7, [2, 3])], some "reset"⟩
      exitTook := 9 }
    let prompt : Session := { stdout := some ⟨[(0, [1, 2, 3])], some "reset"⟩ }
    let offering (s : Session) : Exec.Endpoint Unit := ⟨fun _ _ state => { answer := .ok s, state }⟩
    let request : Exec.Request := { worker := "w", ns := "n", container := "c", argv := [] }
    let captured := (exec (offering slow) request).run { state := () }
    slow.SentAlike prompt ∧ captured.1.stdout = [1, 2, 3] ∧
      captured.1.error = some (.aborted ("stdout: " ++ "reset")) ∧ captured.2.now = 20 ∧
      captured.2.shutdowns = [0] ∧
      ((exec (offering prompt) request).run { state := () }).1 = captured.1 := by
  intro slow prompt offering request captured
  have alike : slow.SentAlike prompt := ⟨rfl, rfl, rfl, rfl, rfl⟩
  obtain ⟨leaves, ended, same⟩ := exec_captures (offering slow) request { state := () }
  refine ⟨alike, leaves.stdout, leaves.unread rfl "reset" rfl, congrArg World.now ended,
    congrArg World.shutdowns ended, ?_⟩
  exact same (offering prompt) request { state := () } prompt rfl alike

end Sim

end BrokerRollout
