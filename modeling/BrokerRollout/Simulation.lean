import BrokerRollout.Exec.Session
import BrokerRollout.Http
import BrokerRollout.Resource
import BrokerRollout.Store.Answer
import BrokerRollout.Time

/-!
# Simulation

A store and an exec endpoint are given by how they reply: a reply is a function of the call, the
time and the state they are in, so that any sequence of answers and waits is a possible one. A
simulated activity moves a world along: the clock, the state of the backends, a journal of every call
with its answer, and the times at which the inputs of commands were shut down.
-/

namespace BrokerRollout

/-- What a backend makes of one call: the answer, the state it is left in, how long it took, and
the requests it sent to get the answer. -/
structure Reply (σ α : Type) where
  answer : α
  state : σ
  took : Nat := 0
  sent : List Http.Request := []

namespace Reply

variable {σ τ α β : Type}

def map (f : α → β) (r : Reply σ α) : Reply σ β := { r with answer := f r.answer }

/-- The reply of a part of a larger state. -/
def mapState (f : σ → τ) (r : Reply σ α) : Reply τ α := { r with state := f r.state }

end Reply

/-- Access to the resources of a cluster. -/
structure Store (σ : Type) where
  create : Resource → Nat → σ → Reply σ (Except Store.Error Unit)
  /-- Reading a resource that does not exist finds nothing, which is no error. -/
  get : Ref → Nat → σ → Reply σ (Except Store.Error (Option Store.Observation))
  delete : Ref → Nat → σ → Reply σ (Except Store.Error Unit)

/-- Access to the workers of a cluster. -/
structure Exec.Endpoint (σ : Type) where
  openSession : Exec.Request → Nat → σ → Reply σ (Except Exec.Error Exec.Session)

/-- The store and the endpoint that a run works on. -/
structure Backend (σ : Type) where
  store : Store σ
  endpoint : Exec.Endpoint σ

/-- A store whose state is a part of a larger one. -/
def Store.within {σ τ : Type} (part : τ → σ) (put : σ → τ → τ) (s : Store σ) : Store τ where
  create resource now state := (s.create resource now (part state)).mapState (put · state)
  get ref now state := (s.get ref now (part state)).mapState (put · state)
  delete ref now state := (s.delete ref now (part state)).mapState (put · state)

/-- An endpoint whose state is a part of a larger one. -/
def Exec.Endpoint.within {σ τ : Type} (part : τ → σ) (put : σ → τ → τ) (e : Exec.Endpoint σ) :
    Exec.Endpoint τ where
  openSession request now state :=
    (e.openSession request now (part state)).mapState (put · state)

/-- The endpoint of runs that have no cluster: nothing opens. -/
def Exec.Endpoint.offline {σ : Type} : Exec.Endpoint σ where
  openSession request _ state := {
    answer := .error (.setup request.worker "no exec endpoint configured for offline runs")
    state }

/-- A call to a backend, with its answer. -/
inductive Call where
  | create (resource : Resource) (answer : Except Store.Error Unit)
  | get (ref : Ref) (answer : Except Store.Error (Option Store.Observation))
  | delete (ref : Ref) (answer : Except Store.Error Unit)
  | openSession (request : Exec.Request) (answer : Except Exec.Error Exec.Session)

/-- A call in the journal: when it was made, when it was answered, and what was sent for it. -/
structure Entry where
  call : Call
  began : Nat
  ended : Nat
  sent : List Http.Request

/-- The state of a simulation. -/
structure World (σ : Type) where
  now : Nat := 0
  state : σ
  journal : List Entry := []
  /-- When the input channel of a session was shut down, one session after the other. -/
  shutdowns : List Nat := []

/-- A simulated activity. -/
abbrev Sim (σ : Type) := StateM (World σ)

namespace Sim

variable {σ α : Type}

def now : Sim σ Nat := return (← get).now

/-- Lets a span of time pass. -/
def wait (span : Nat) : Sim σ Unit := modify fun w => { w with now := w.now + span }

/-- Lets time pass up to a point, at the resolution of timers; a point in the past is no wait. -/
def sleepUntil (t : Nat) : Sim σ Unit :=
  modify fun w => { w with now := max w.now (Time.ceilMilli t) }

/-- Makes a call and writes it down. -/
def call (ask : Nat → σ → Reply σ α) (toCall : α → Call) : Sim σ α := do
  let w ← get
  let reply := ask w.now w.state
  let ended := w.now + reply.took
  let entry : Entry := ⟨toCall reply.answer, w.now, ended, reply.sent⟩
  set ({ w with now := ended, state := reply.state, journal := w.journal ++ [entry] } : World σ)
  return reply.answer

def create (s : Store σ) (resource : Resource) : Sim σ (Except Store.Error Unit) :=
  call (s.create resource) (.create resource)

def read (s : Store σ) (ref : Ref) : Sim σ (Except Store.Error (Option Store.Observation)) :=
  call (s.get ref) (.get ref)

def delete (s : Store σ) (ref : Ref) : Sim σ (Except Store.Error Unit) :=
  call (s.delete ref) (.delete ref)

def openSession (e : Exec.Endpoint σ) (request : Exec.Request) :
    Sim σ (Except Exec.Error Exec.Session) :=
  call (e.openSession request) (.openSession request)

/-- Shuts the input of a session down, if there is one. -/
def shutDown (session : Exec.Session) : Sim σ Unit :=
  modify fun w => { w with shutdowns := w.shutdowns ++ session.stdin.toList.map fun _ => w.now }

/-- Lets the time pass that a result takes. -/
def await : Delayed α → Sim σ α
  | .ready a => return a
  | .wait span rest => do
    wait span
    await rest

theorem await_run (x : Delayed α) (w : World σ) :
    (await x).run w = (x.result, { w with now := w.now + x.took }) := by
  induction x generalizing w with
  | ready a => rfl
  | wait span rest ih =>
    have later := ih { w with now := w.now + span }
    rw [Nat.add_assoc] at later
    exact later

/-- Runs a command to its end and captures its output. -/
def exec (e : Exec.Endpoint σ) (request : Exec.Request) : Sim σ Exec.Output := do
  match ← openSession e request with
  | .ok session =>
    shutDown session
    await session.capture
  | .error reason => return .failed reason

/-- A command takes as long as its session, and leaves what that brings. -/
theorem exec_eq (e : Exec.Endpoint σ) (request : Exec.Request) :
    exec e request = (do
      let opening ← openSession e request
      if let .ok session := opening then
        shutDown session
        wait session.took
      return .ofOpening opening) := by
  refine congrArg (openSession e request >>= ·) (funext fun opening => ?_)
  cases opening with
  | error _ => rfl
  | ok session =>
    refine congrArg (shutDown session >>= ·) (funext fun _ => ?_)
    funext w
    have captured := await_run session.capture w
    rw [session.result_capture, session.took_capture] at captured
    exact captured

end Sim

end BrokerRollout
