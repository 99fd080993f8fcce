import BrokerRollout.Simulation

/-!
# Histories

What an activity does to its world is a history: it lets time pass and shuts inputs down, and it makes
calls, each of which the backend answers by the time and the state it is in. `Sim.Acts` says what holds of the
result and the calls of an activity in every world, with one rule for each way to build one.
Main statement: such a property holds of the calls that the activity leaves in the journal
(`Sim.Acts.callsOf`).
-/

namespace BrokerRollout

variable {σ α β : Type}

/-- What a call asks for, whatever the answer. -/
inductive Ask where
  | create (resource : Resource)
  | get (ref : Ref)
  | delete (ref : Ref)
  | openSession (request : Exec.Request)
deriving DecidableEq

def Ask.creation? : Ask → Option Ref
  | .create resource => some resource.ref
  | _ => none

def Ask.deletion? : Ask → Option Ref
  | .delete ref => some ref
  | _ => none

def Ask.request? : Ask → Option Exec.Request
  | .openSession request => some request
  | _ => none

def Call.ask : Call → Ask
  | .create resource _ => .create resource
  | .get ref _ => .get ref
  | .delete ref _ => .delete ref
  | .openSession request _ => .openSession request

/-- What the backend makes of a call, with the call as it goes into the journal. -/
def Backend.reply (b : Backend σ) (now : Nat) (state : σ) : Ask → Reply σ Call
  | .create resource => (b.store.create resource now state).map (.create resource)
  | .get ref => (b.store.get ref now state).map (.get ref)
  | .delete ref => (b.store.delete ref now state).map (.delete ref)
  | .openSession request =>
    (b.endpoint.openSession request now state).map (.openSession request)

theorem Backend.reply_ask (b : Backend σ) (now : Nat) (state : σ) (ask : Ask) :
    (b.reply now state ask).answer.ask = ask := by
  cases ask <;> rfl

def World.after (w : World σ) (reply : Reply σ Call) : World σ :=
  { w with
    now := w.now + reply.took
    state := reply.state
    journal := w.journal ++ [⟨reply.answer, w.now, w.now + reply.took, reply.sent⟩] }

/-- Calls that `c` is not among come before it. -/
theorem comes_before {first second before after : List Call} {c : Call}
    (h : before ++ c :: after = first ++ second) (absent : c ∉ first) :
    ∃ more, before = first ++ more := by
  rcases List.append_eq_append_iff.1 h with ⟨more, rfl, rest⟩ | ⟨more, grown, -⟩
  · cases more with
    | nil => exact ⟨[], by simp⟩
    | cons _ more =>
      obtain ⟨rfl, -⟩ := List.cons.inj rest
      exact absurd (by simp) absent
  · exact ⟨more, grown⟩

/-- The calls made on the way from one world to another. -/
inductive History (b : Backend σ) : World σ → List Call → World σ → Prop where
  | done {w : World σ} : History b w [] w
  | pause {w w' : World σ} {calls : List Call} (t : Nat) (shutdowns : List Nat) (later : w.now ≤ t)
      (rest : History b { w with now := t, shutdowns } calls w') : History b w calls w'
  | call {w w' : World σ} {calls : List Call} (ask : Ask)
      (rest : History b (w.after (b.reply w.now w.state ask)) calls w') :
      History b w ((b.reply w.now w.state ask).answer :: calls) w'

namespace History

variable {b : Backend σ} {w w' w'' : World σ} {calls more : List Call}

theorem append (first : History b w calls w') (second : History b w' more w'') :
    History b w (calls ++ more) w'' := by
  induction first with
  | done => exact second
  | pause t shutdowns later _ ih => exact .pause t shutdowns later (ih second)
  | call ask _ ih => exact .call ask (ih second)

theorem forward (h : History b w calls w') : w.now ≤ w'.now := by
  induction h with
  | done => exact Nat.le_refl _
  | pause _ _ later _ ih => exact Nat.le_trans later ih
  | call _ _ ih => exact Nat.le_trans (Nat.le_add_right ..) ih

/-- The journal grows by the calls, and nothing in it changes. -/
theorem journal (h : History b w calls w') :
    ∃ entries, w'.journal = w.journal ++ entries ∧ entries.map Entry.call = calls := by
  induction h with
  | done => exact ⟨[], by simp, rfl⟩
  | pause _ _ _ _ ih => exact ih
  | call ask _ ih =>
    obtain ⟨entries, grown, same⟩ := ih
    refine ⟨_ :: entries, grown.trans (List.append_assoc ..), ?_⟩
    exact congrArg (_ :: ·) same

/-- No answer is made up: the backend gave it at some time and in some state. -/
theorem answered (h : History b w calls w') {c : Call} (member : c ∈ calls) :
    ∃ now state, c = (b.reply now state c.ask).answer := by
  induction h with
  | done => cases member
  | pause _ _ _ _ ih => exact ih member
  | @call w _ _ ask _ ih =>
    rcases List.mem_cons.mp member with rfl | member
    · exact ⟨w.now, w.state, by rw [b.reply_ask]⟩
    · exact ih member

end History

namespace Sim

theorem run_bind_of {x : Sim σ α} {f : α → Sim σ β} {a : α} {w after : World σ}
    (ran : x.run w = (a, after)) : (x >>= f).run w = (f a).run after := by
  rw [StateT.run_bind, ran]
  rfl

/-- The activity does nothing but call `b` and wait, and `Q` holds of its result and its calls. -/
def Acts (b : Backend σ) (x : Sim σ α) (Q : α → List Call → Prop) : Prop :=
  ∀ w, ∃ calls, History b w calls (x.run w).2 ∧ Q (x.run w).1 calls

/-- The calls that an activity adds to the journal. -/
def callsOf (x : Sim σ α) (w : World σ) : List Call :=
  ((x.run w).2.journal.drop w.journal.length).map Entry.call

theorem callsOf_eq {b : Backend σ} {x : Sim σ α} {w : World σ} {calls : List Call}
    (h : History b w calls (x.run w).2) : x.callsOf w = calls := by
  obtain ⟨entries, grown, same⟩ := h.journal
  rw [callsOf, grown, List.drop_left, same]

theorem callsOf_of_run {b : Backend σ} {x : Sim σ α} {a : α} {w w' : World σ} {calls : List Call}
    (ran : x.run w = (a, w')) (past : History b w calls w') : x.callsOf w = calls :=
  callsOf_eq (by rwa [ran])

namespace Acts

variable {b : Backend σ} {x : Sim σ α} {P Q : α → List Call → Prop}

theorem callsOf (h : Acts b x Q) (w : World σ) : Q (x.run w).1 (x.callsOf w) := by
  obtain ⟨calls, past, holds⟩ := h w
  rwa [callsOf_eq past]

theorem history (h : Acts b x Q) (w : World σ) : History b w (x.callsOf w) (x.run w).2 := by
  obtain ⟨calls, past, _⟩ := h w
  rwa [callsOf_eq past]

theorem forward (h : Acts b x Q) (w : World σ) : w.now ≤ (x.run w).2.now :=
  (h.history w).forward

theorem mono (h : Acts b x P) (weaker : ∀ a calls, P a calls → Q a calls) : Acts b x Q := by
  intro w
  obtain ⟨calls, past, holds⟩ := h w
  exact ⟨calls, past, weaker _ _ holds⟩

theorem pure {a : α} (h : Q a []) : Acts b (Pure.pure a) Q :=
  fun _ => ⟨[], .done, h⟩

theorem bind {f : α → Sim σ β} {Q : β → List Call → Prop} (first : Acts b x P)
    (next : ∀ a calls, P a calls → Acts b (f a) fun c more => Q c (calls ++ more)) :
    Acts b (x >>= f) Q := by
  intro w
  obtain ⟨calls, past, holds⟩ := first w
  obtain ⟨more, later, result⟩ := next _ _ holds (x.run w).2
  exact ⟨calls ++ more, past.append later, result⟩

/-- An activity whose rest is no more than a result. -/
theorem bind_pure {f : α → Sim σ β} {Q : β → List Call → Prop} (first : Acts b x P)
    (next : ∀ a calls, P a calls → ∃ c, f a = Pure.pure c ∧ Q c calls) :
    Acts b (x >>= f) Q := by
  refine first.bind fun a calls holds => ?_
  obtain ⟨c, same, result⟩ := next a calls holds
  rw [same]
  exact Acts.pure (by rwa [List.append_nil])

end Acts

/-! ### Single steps -/

theorem now_acts (b : Backend σ) : Acts b (now : Sim σ Nat) fun _ calls => calls = [] :=
  fun _ => ⟨[], .done, rfl⟩

theorem wait_acts (b : Backend σ) (span : Nat) : Acts b (wait span) fun _ calls => calls = [] :=
  fun w => ⟨[], .pause (w.now + span) w.shutdowns (by omega) .done, rfl⟩

theorem sleepUntil_acts (b : Backend σ) (t : Nat) :
    Acts b (sleepUntil t) fun _ calls => calls = [] :=
  fun w => ⟨[], .pause (max w.now (Time.ceilMilli t)) w.shutdowns (by omega) .done, rfl⟩

theorem shutDown_acts (b : Backend σ) (session : Exec.Session) :
    Acts b (shutDown session) fun _ calls => calls = [] :=
  fun w => ⟨[], .pause w.now _ (Nat.le_refl _) .done, rfl⟩

theorem create_acts (b : Backend σ) (resource : Resource) :
    Acts b (create b.store resource) fun answer calls => calls = [.create resource answer] :=
  fun _ => ⟨_, .call (.create resource) .done, rfl⟩

theorem read_acts (b : Backend σ) (ref : Ref) :
    Acts b (read b.store ref) fun answer calls => calls = [.get ref answer] :=
  fun _ => ⟨_, .call (.get ref) .done, rfl⟩

theorem delete_acts (b : Backend σ) (ref : Ref) :
    Acts b (delete b.store ref) fun answer calls => calls = [.delete ref answer] :=
  fun _ => ⟨_, .call (.delete ref) .done, rfl⟩

theorem openSession_acts (b : Backend σ) (request : Exec.Request) :
    Acts b (openSession b.endpoint request) fun answer calls =>
      calls = [.openSession request answer] :=
  fun _ => ⟨_, .call (.openSession request) .done, rfl⟩

/-- However long its session lasts, running a command is one call. -/
theorem exec_acts (b : Backend σ) (request : Exec.Request) :
    Acts b (exec b.endpoint request) fun output calls =>
      ∃ opening, calls = [.openSession request opening] ∧ output = .ofOpening opening := by
  rw [exec_eq]
  refine (openSession_acts b request).bind ?_
  rintro opening _ rfl
  cases opening with
  | error e => exact Acts.pure ⟨.error e, rfl, rfl⟩
  | ok session =>
    refine (shutDown_acts b session).bind ?_
    rintro _ _ rfl
    refine (wait_acts b session.took).bind ?_
    rintro _ _ rfl
    exact Acts.pure ⟨.ok session, rfl, rfl⟩

end Sim

end BrokerRollout
