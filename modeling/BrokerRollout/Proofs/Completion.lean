import BrokerRollout.Kube.Exec
import BrokerRollout.Proofs.Capture

/-!
# How commands end

A client attaches to a process or fails to. If it does, a status arrives or not, and the stream is
received to its end or not. What is reported of the command tells these cases apart. Main
statement: `Kube.exec_classified`.
-/

namespace BrokerRollout.Kube

/-! ### Exit codes -/

/-- The text is a number of 32 bits: decimal digits after a sign or none. -/
def Denotes (text : String) (n : Int) : Prop :=
  ∃ sign digits : List Char, text.toList = sign ++ digits ∧ digits ≠ [] ∧
    (∀ c ∈ digits, c.isDigit = true) ∧
    ((sign = [] ∨ sign = ['+']) ∧ n = Nat.ofDigitChars 10 digits 0 ∨
      sign = ['-'] ∧ n = -(Nat.ofDigitChars 10 digits 0 : Int)) ∧
    -2147483648 ≤ n ∧ n ≤ 2147483647

variable {text : String} {n : Int} {digits : List Char} {negative : Bool}

theorem decimalNumber_eq (digits : List Char) :
    Text.decimalNumber digits = Nat.ofDigitChars 10 digits 0 := by
  unfold Text.decimalNumber Nat.ofDigitChars
  simp only [Nat.mul_comm]

theorem int32?_of_unsigned (split : unsigned text.toList = (negative, digits)) :
    int32? text = some n ↔ digits ≠ [] ∧ (∀ c ∈ digits, c.isDigit = true) ∧
      n = (if negative then -(Nat.ofDigitChars 10 digits 0 : Int) else Nat.ofDigitChars 10 digits 0) ∧
      -2147483648 ≤ n ∧ n ≤ 2147483647 := by
  have least : Int32.minValue.toInt = -2147483648 := by decide
  have most : Int32.maxValue.toInt = 2147483647 := by decide
  unfold int32?
  simp only [split, least, most, decimalNumber_eq]
  by_cases empty : digits = []
  · simp [empty]
  by_cases all : ∀ c ∈ digits, c.isDigit = true
  · have plain : ¬(digits.isEmpty || !digits.all Char.isDigit) = true := by simpa [empty] using all
    rw [if_neg plain]
    generalize (if negative then -(Nat.ofDigitChars 10 digits 0 : Int) else _) = value
    constructor
    · intro fits
      split at fits
      · next range =>
        obtain rfl := Option.some.inj fits
        exact ⟨empty, all, rfl, range⟩
      · cases fits
    · rintro ⟨-, -, rfl, range⟩
      rw [if_pos range]
  · have odd : (digits.isEmpty || !digits.all Char.isDigit) = true := by
      simpa [empty] using all
    rw [if_pos odd]
    exact iff_of_false nofun fun h => all h.2.1

/-- A text is its sign, if it has one, and the rest. -/
theorem unsigned_cases (cs : List Char) :
    ∃ sign rest, cs = sign ++ rest ∧
      (unsigned cs = (false, rest) ∧ (sign = [] ∨ sign = ['+']) ∨
        unsigned cs = (true, rest) ∧ sign = ['-']) := by
  unfold unsigned
  split
  · next digits => exact ⟨['-'], digits, rfl, .inr ⟨rfl, rfl⟩⟩
  · next digits => exact ⟨['+'], digits, rfl, .inl ⟨rfl, .inr rfl⟩⟩
  · exact ⟨[], cs, rfl, .inl ⟨rfl, .inl rfl⟩⟩

theorem unsigned_digits (given : digits ≠ []) (all : ∀ c ∈ digits, c.isDigit = true) :
    unsigned digits = (false, digits) := by
  unfold unsigned
  split
  · exact absurd (all '-' List.mem_cons_self) (by decide)
  · exact absurd (all '+' List.mem_cons_self) (by decide)
  · rfl

theorem int32?_eq_some_iff : int32? text = some n ↔ Denotes text n := by
  constructor
  · intro parsed
    obtain ⟨sign, digits, whole, ⟨split, signs⟩ | ⟨split, minus⟩⟩ := unsigned_cases text.toList
    · obtain ⟨given, all, value, range⟩ := (int32?_of_unsigned split).1 parsed
      exact ⟨sign, digits, whole, given, all, .inl ⟨signs, value⟩, range⟩
    · obtain ⟨given, all, value, range⟩ := (int32?_of_unsigned split).1 parsed
      exact ⟨sign, digits, whole, given, all, .inr ⟨minus, value⟩, range⟩
  · rintro ⟨sign, digits, whole, given, all, ⟨rfl | rfl, value⟩ | ⟨rfl, value⟩, range⟩
    · have split : unsigned text.toList = (false, digits) := by
        rw [whole]
        exact unsigned_digits given all
      exact (int32?_of_unsigned split).2 ⟨given, all, value, range⟩
    · have split : unsigned text.toList = (false, digits) := by rw [whole]; rfl
      exact (int32?_of_unsigned split).2 ⟨given, all, value, range⟩
    · have split : unsigned text.toList = (true, digits) := by rw [whole]; rfl
      exact (int32?_of_unsigned split).2 ⟨given, all, value, range⟩

/-! ### Statuses -/

variable {s : Status} {a : Attached} {code : Option Int} {message : String}

/-- The first cause that is an exit code has this number for its message. -/
def Status.ExitsWith (s : Status) (n : Int) : Prop :=
  ∃ details causes before cause after text, s.details = some details ∧
    details.causes = some causes ∧ causes = before ++ cause :: after ∧
    (∀ c ∈ before, c.reason ≠ some "ExitCode") ∧ cause.reason = some "ExitCode" ∧
    cause.message = some text ∧ Denotes text n

theorem Status.exitCode?_eq_some_iff : s.exitCode? = some n ↔ s.ExitsWith n := by
  unfold exitCode?
  simp only [Option.bind_eq_bind, Option.bind_eq_some_iff, List.find?_eq_some_iff_append,
    int32?_eq_some_iff]
  constructor
  · rintro ⟨details, given, causes, listed, cause, ⟨exits, before, after, place, others⟩, text,
      worded, denotes⟩
    have earlier : ∀ c ∈ before, c.reason ≠ some "ExitCode" := by simpa using others
    have first : cause.reason = some "ExitCode" := by simpa using exits
    exact ⟨details, causes, before, cause, after, text, given, listed, place, earlier, first, worded,
      denotes⟩
  · rintro ⟨details, causes, before, cause, after, text, given, listed, place, earlier, first, worded,
      denotes⟩
    refine ⟨details, given, causes, listed, cause, ⟨by simpa using first, before, after, place, ?_⟩,
      text, worded, denotes⟩
    simpa using earlier

/-! ### Attached processes -/

/-- The ways in which the command of an attached process ends. -/
inductive Attached.Ends (a : Attached) : Except Exec.Error Unit → Prop where
  | broken {reason : String} (joined : a.joined = .error reason) :
      Ends a (.error (.aborted reason))
  | closed (joined : a.joined = .ok ()) (status : a.status = none) :
      Ends a (.error (.aborted "stream closed without a completion status"))
  | succeeded {s : Status} (joined : a.joined = .ok ()) (status : a.status = some s)
      (success : s.status = some "Success") : Ends a (.ok ())
  | exited {s : Status} (joined : a.joined = .ok ()) (status : a.status = some s)
      (failure : s.status ≠ some "Success") (exit : s.reason = some "NonZeroExitCode") :
      Ends a (.error (.nonZeroExit s.exitCode? (s.message.getD "")))
  | failed {s : Status} (joined : a.joined = .ok ()) (status : a.status = some s)
      (failure : s.status ≠ some "Success") (other : s.reason ≠ some "NonZeroExitCode") :
      Ends a (.error (.aborted (s.message.getD "")))

theorem Attached.outcome_ends (a : Attached) : a.Ends a.outcome := by
  unfold outcome
  split
  · next joined => exact .broken joined
  · next joined =>
    cases status : a.status with
    | none => exact .closed joined status
    | some s =>
      unfold Kube.outcome
      dsimp only
      split
      · next success => exact .succeeded joined status success
      · next failure =>
        split
        · next exit => exact .exited joined status failure exit
        · next other => exact .failed joined status failure other

/-- What the completion of an attached process says. -/
structure Attached.Completes (a : Attached) (completion : Except Exec.Error Unit) : Prop where
  succeeded : completion = .ok () ↔
    a.joined = .ok () ∧ ∃ s, a.status = some s ∧ s.status = some "Success"
  exited : (∃ code message, completion = .error (.nonZeroExit code message)) ↔
    a.joined = .ok () ∧ ∃ s, a.status = some s ∧ s.status ≠ some "Success" ∧
      s.reason = some "NonZeroExitCode"
  code : ∀ s code message, a.status = some s → completion = .error (.nonZeroExit code message) →
    message = s.message.getD "" ∧ ∀ n, code = some n ↔ s.ExitsWith n
  aborted : (∃ reason, completion = .error (.aborted reason)) ↔
    (∃ reason, a.joined = .error reason) ∨ a.status = none ∨
      ∃ s, a.status = some s ∧ s.status ≠ some "Success" ∧ s.reason ≠ some "NonZeroExitCode"

theorem Attached.Ends.completes {completion : Except Exec.Error Unit} (h : a.Ends completion) :
    a.Completes completion := by
  cases h with
  | broken joined => exact ⟨by simp [joined], by simp [joined], by simp, by simp [joined]⟩
  | closed joined status => exact ⟨by simp [status], by simp [status], by simp, by simp [status]⟩
  | succeeded joined status success =>
    refine ⟨?_, ?_, by simp, ?_⟩ <;> simp [joined, status, success]
  | exited joined status failure exit =>
    refine ⟨?_, ?_, ?_, ?_⟩
    · simp [status, failure]
    · simp [joined, status, failure, exit]
    · rintro s code message given ⟨⟩
      obtain rfl := Option.some.inj (status.symm.trans given)
      exact ⟨rfl, fun n => Status.exitCode?_eq_some_iff⟩
    · simp [joined, status, exit]
  | failed joined status failure other =>
    refine ⟨?_, ?_, by simp, ?_⟩ <;> simp [status, failure, other]

theorem Attached.Ends.stage {e : Exec.Error} (h : a.Ends (.error e)) : e.stage = .execution := by
  cases h <;> rfl

/-! ### Commands -/

variable {σ : Type}

theorem openSession_run (attach : Attach σ) (request : Exec.Request) (w : World σ) :
    ((Sim.openSession attach.endpoint request).run w).1 =
      opened request (attach request w.now w.state).answer := rfl

theorem stage_of_error {session : Exec.Session} {e : Exec.Error}
    (ends : ∀ e, session.outcome = .error e → e.stage = .execution)
    (failed : session.output.error = some e) : e.stage = .execution := by
  rw [Exec.Session.output] at failed
  unfold Exec.Error.ofParts? at failed
  split at failed
  · next ended => exact ends e (by rw [ended, Option.some.inj failed])
  · cases failed
    rfl
  · cases failed
    rfl
  · cases failed

/-- A client reports a failed setup just if it could not attach to a process, and then it has
captured nothing and names the worker. Otherwise the completion is that of the process, and the
client reports its error; it reports success only if a status of success has arrived. -/
theorem exec_classified (attach : Attach σ) (request : Exec.Request) (w : World σ) :
    let attempt := (attach request w.now w.state).answer
    let session := ((Sim.openSession attach.endpoint request).run w).1
    let output := ((Sim.exec attach.endpoint request).run w).1
    (output.error.map Exec.Error.stage = some .setup ↔ ∃ reason, attempt = .error reason) ∧
      match attempt with
      | .error reason => output =
          { stdout := [], stderr := [], error := some (.setup request.worker reason) }
      | .ok attached => session = .ok attached.session ∧
          attached.Completes attached.session.outcome ∧
          (∀ e, attached.session.outcome = .error e → output.error = some e) ∧
          (output.isSuccess = true →
            attached.joined = .ok () ∧ ∃ s, attached.status = some s ∧ s.status = some "Success") := by
  intro attempt session output
  have here : output = .ofOpening (opened request attempt) := by
    rw [← openSession_run]
    exact congrArg Prod.fst (Sim.exec_run attach.endpoint request w)
  have opens : session = opened request attempt := openSession_run attach request w
  rw [here, opens]
  cases attempt with
  | error reason => exact ⟨iff_of_true rfl ⟨reason, rfl⟩, rfl⟩
  | ok attached =>
    have ends : attached.Ends attached.session.outcome := attached.outcome_ends
    have leaves := attached.session.leaves_output
    refine ⟨iff_of_false (fun setup => ?_) nofun, rfl, ends.completes, leaves.failed, ?_⟩
    · obtain ⟨e, reported, stage⟩ := Option.map_eq_some_iff.1 setup
      have execution := stage_of_error (fun e failed => (failed ▸ ends).stage) reported
      exact nomatch stage.symm.trans execution
    · intro success
      refine ends.completes.succeeded.1 ?_
      cases ended : attached.session.outcome with
      | ok => rfl
      | error e =>
        have reported := leaves.failed e ended
        simp [Exec.Output.isSuccess, Exec.Output.ofOpening, opened, reported] at success

end BrokerRollout.Kube
