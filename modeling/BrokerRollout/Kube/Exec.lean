import BrokerRollout.Kube.Error
import BrokerRollout.Kube.Transport

/-!
# Commands over an API server

A command is run by a request that the server answers by switching to a stream of frames. Frames
carry the output channels and, last, a status that tells how the command ended. A stream without a
status never counts as a success.
-/

namespace BrokerRollout.Kube

/-! ### The final status -/

/-- One of the causes of a status. -/
structure Cause where
  reason : Option String
  message : Option String
deriving DecidableEq

/-- What a status may add. -/
structure Details where
  causes : Option (List Cause)
deriving DecidableEq

/-- How a server says a command ended. -/
structure Status where
  status : Option String
  reason : Option String
  message : Option String
  details : Option Details
deriving DecidableEq

namespace Status

def textMember? (name : String) (value : Json) : Option String :=
  (value.member? name).bind Json.string?

def causeOf (value : Json) : Cause where
  reason := textMember? "reason" value
  message := textMember? "message" value

/-- The details that an object gives; anything else, such as null, gives none. -/
def details? : Json → Option Details
  | .object members => some {
      causes := (((Json.object members).member? "causes").bind Json.array?).map (·.map causeOf) }
  | _ => none

def ofJson (object : Json) : Status where
  status := textMember? "status" object
  reason := textMember? "reason" object
  message := textMember? "message" object
  details := (object.member? "details").bind details?

end Status

/-- Whether a number is negative by its sign, and what follows the sign. -/
def unsigned : List Char → Bool × List Char
  | '-' :: digits => (true, digits)
  | '+' :: digits => (false, digits)
  | digits => (false, digits)

/-- The number of a text that is an optional sign and then digits, if it fits into 32 bits. -/
def int32? (text : String) : Option Int :=
  let (negative, digits) := unsigned text.toList
  if digits.isEmpty || !digits.all Char.isDigit then none
  else
    let n : Int := Text.decimalNumber digits
    let n := if negative then -n else n
    if Int32.minValue.toInt ≤ n ∧ n ≤ Int32.maxValue.toInt then some n else none

/-- The exit code: that of the first cause that is one. -/
def Status.exitCode? (s : Status) : Option Int := do
  let causes ← (← s.details).causes
  let cause ← causes.find? (·.reason = some "ExitCode")
  int32? (← cause.message)

/-- The outcome of a command by the status that ended its stream. -/
def outcome : Option Status → Except Exec.Error Unit
  | none => .error (.aborted "stream closed without a completion status")
  | some s =>
    if s.status = some "Success" then .ok ()
    else
      let message := s.message.getD ""
      if s.reason = some "NonZeroExitCode" then .error (.nonZeroExit s.exitCode? message)
      else .error (.aborted message)

/-! ### Attached processes -/

/-- A process that a client is attached to: its channels, and what is known when its stream is
over. -/
structure Attached where
  stdin : Option Exec.Closing := none
  stdout : Option Exec.Channel := none
  stderr : Option Exec.Channel := none
  /-- When the stream is over, counted from the opening. -/
  took : Nat := 0
  /-- The status that has arrived. -/
  status : Option Status := none
  /-- Whether the stream was received to its end, or why not. -/
  joined : Except String Unit := .ok ()

/-- A status counts only if the stream was received to its end. -/
def Attached.outcome (a : Attached) : Except Exec.Error Unit :=
  match a.joined with
  | .error reason => .error (.aborted reason)
  | .ok () => Kube.outcome a.status

def Attached.session (a : Attached) : Exec.Session where
  stdin := a.stdin
  stdout := a.stdout
  stderr := a.stderr
  exitTook := a.took
  outcome := a.outcome

/-- A way to attach to a process by running a command, or the reason why that fails. -/
abbrev Attach (σ : Type) := Exec.Request → Nat → σ → Reply σ (Except String Attached)

/-- What attaching to a process answers. -/
def opened (r : Exec.Request) : Except String Attached → Except Exec.Error Exec.Session
  | .error reason => .error (.setup r.worker reason)
  | .ok attached => .ok attached.session

/-- The endpoint that attaches to a process for each request. -/
def Attach.endpoint {σ : Type} (attach : Attach σ) : Exec.Endpoint σ where
  openSession request now state := (attach request now state).map (opened request)

/-! ### The request -/

def attachment (name : String) (on : Bool) : List (String × String) :=
  if on then [(name, "true")] else []

/-- The request for running a command. At least one channel has to be attached. -/
def execRequest (r : Exec.Request) : Except Error Http.Request :=
  if r.stdin || r.stdout || r.stderr then
    requestTo .get ("/api/v1/namespaces/" ++ r.ns ++ "/pods/" ++ r.worker ++ "/exec")
      (some (attachment "stdin" r.stdin ++ attachment "stdout" r.stdout
        ++ attachment "stderr" r.stderr ++ [("container", r.container)]
        ++ r.argv.map (("command", ·)))) none
  else .error .nothingAttached

/-! ### The stream -/

/-- Letters without regard to case. -/
def foldCase (s : String) : String := String.ofList (s.toList.map Char.toLower)

/-- Why a reply does not open a stream. -/
def Upgrade.refusal? (u : Upgrade) : Option String :=
  if u.status ≠ 101 then some ("failed to switch protocol: " ++ Http.statusText u.status)
  else if foldCase u.upgrade ≠ "websocket" then
    some "upgrade header was not set to websocket"
  else if foldCase u.connection ≠ "upgrade" then
    some "connection header was not set to Upgrade"
  else if !u.acceptsKey then some "Sec-WebSocket-Accept key mismatched"
  else if u.subprotocol ≠ "v4.channel.k8s.io" then some "Sec-WebSocket-Protocol mismatched"
  else none

/-- The payload of a frame of a channel; empty ones say nothing. -/
def Frame.payload? (channel : Nat) : Frame → Option (List UInt8)
  | .binary c payload => if c = channel ∧ payload ≠ [] then some payload else none
  | .text => none

def stdoutChannel : Nat := 1

def stderrChannel : Nat := 2

def statusChannel : Nat := 3

/-- The frames before the one that carries the status. -/
def Upgrade.output (u : Upgrade) : List Frame :=
  u.frames.takeWhile fun f => (f.payload? statusChannel).isNone

/-- The payload of the first status. -/
def Upgrade.status? (u : Upgrade) : Option (List UInt8) :=
  u.frames.findSome? (Frame.payload? statusChannel)

/-- What a channel brings, all of it at once. -/
def Upgrade.channel (u : Upgrade) (channel : Nat) : Exec.Channel where
  chunks := (u.output.filterMap (Frame.payload? channel)).map ((0, ·))

/-- The process at the other end of a stream, with the channels that were asked for. -/
def Upgrade.attached (u : Upgrade) (r : Exec.Request) : Attached :=
  let attached : Attached := {
    stdin := if r.stdin then some {} else none
    stdout := if r.stdout then some (u.channel stdoutChannel) else none
    stderr := if r.stderr then some (u.channel stderrChannel) else none }
  match u.status? with
  | none =>
    if u.abrupt then
      { attached with joined := .error ("failed to receive a WebSocket message: "
          ++ "WebSocket protocol error: Connection reset without closing handshake") }
    else attached
  | some payload =>
    match Schema.commandStatus.read payload with
    | .ok object => { attached with status := some (.ofJson object) }
    | .error fault =>
      { attached with joined := .error ("failed to deserialize status object: " ++ fault.message) }

/-- What the reply to a request for a stream attaches to. -/
def attachedBy (r : Exec.Request) : Except String Upgrade → Except String Attached
  | .error reason => .error (Error.lost reason).message
  | .ok upgrade =>
    match upgrade.refusal? with
    | some reason => .error (Error.noStream reason).message
    | none => .ok (upgrade.attached r)

variable {σ : Type}

/-- A transport attaches by a request for a stream. -/
def Transport.attach (t : Transport σ) : Attach σ := fun request now state =>
  match execRequest request with
  | .error e => { answer := .error e.message, state }
  | .ok sent => (t.upgrade sent now state).map (attachedBy request)

/-- The endpoint behind a transport. -/
def endpoint (t : Transport σ) : Exec.Endpoint σ := Attach.endpoint t.attach

end BrokerRollout.Kube
