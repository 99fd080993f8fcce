import BrokerRollout.Delayed
import BrokerRollout.Exec.Error
import BrokerRollout.Exec.Request
import BrokerRollout.Text.Utf8

/-!
# Sessions with a running command

An open session has up to three channels and ends with the command's outcome. The input channel is
closed first; then both output channels are read to the end, chunk by chunk and at the same time,
while the command runs. Main statements: what is captured is all that the session brings, in whatever
chunks and at whatever time (`Session.result_capture`), and the session is over when the input is
closed and both output channels and the command are over (`Session.took_capture`).
-/

namespace BrokerRollout.Exec

/-- What a channel brings: chunks of bytes, each after a wait, then its end or a read error. -/
structure Channel where
  chunks : List (Nat × List UInt8)
  fault : Option String := none
deriving DecidableEq

namespace Channel

/-- All bytes that arrive before the end or the error. -/
def bytes (c : Channel) : List UInt8 := c.chunks.flatMap (·.2)

/-- When the end or the error arrives, counted from the opening. -/
def took (c : Channel) : Nat := c.chunks.foldr (fun (span, _) total => span + total) 0

/-- Reads chunks into a buffer as they arrive. -/
def collect (buffer : List UInt8) : List (Nat × List UInt8) → Delayed (List UInt8)
  | [] => .ready buffer
  | (span, bytes) :: rest => .wait span (collect (buffer ++ bytes) rest)

/-- Reads a channel up to its end or its error; what arrived before an error is kept. A channel
that is not there has nothing to read. -/
def drain : Option Channel → Delayed (List UInt8 × Option String)
  | none => .ready ([], none)
  | some c => (collect [] c.chunks).map fun buffer => (buffer, c.fault)

theorem result_collect (buffer : List UInt8) (chunks : List (Nat × List UInt8)) :
    (collect buffer chunks).result = buffer ++ chunks.flatMap (·.2) := by
  induction chunks generalizing buffer with
  | nil => exact (List.append_nil buffer).symm
  | cons chunk rest ih =>
    rw [collect, Delayed.result, ih, List.flatMap_cons, List.append_assoc]

theorem took_collect (buffer : List UInt8) (chunks : List (Nat × List UInt8)) :
    (collect buffer chunks).took = chunks.foldr (fun (span, _) total => span + total) 0 := by
  induction chunks generalizing buffer with
  | nil => rfl
  | cons chunk rest ih => rw [collect, Delayed.took, ih, List.foldr_cons]

theorem result_drain (c : Option Channel) :
    (drain c).result = ((c.map bytes).getD [], c.bind (·.fault)) := by
  cases c with
  | none => rfl
  | some c => simp [drain, result_collect, bytes]

theorem took_drain (c : Option Channel) : (drain c).took = (c.map took).getD 0 := by
  cases c with
  | none => rfl
  | some c => simp [drain, took_collect, took]

end Channel

/-- What closing an input channel comes to, and how long that takes. -/
structure Closing where
  took : Nat := 0
  answer : Except String Unit := .ok ()

/-- An open stream to a running command. -/
structure Session where
  /-- The input channel, if attached, by how it closes. -/
  stdin : Option Closing := none
  stdout : Option Channel := none
  stderr : Option Channel := none
  /-- When the command ends, counted from the opening. -/
  exitTook : Nat := 0
  outcome : Except Error Unit := .ok ()

/-- The error of a session by how its parts ended: the command's own before one of its channels, the
first channel before the second. -/
def Error.ofParts? (outcome : Except Error Unit) (stdout stderr : Option String) : Option Error :=
  match outcome, stdout, stderr with
  | .error e, _, _ => some e
  | .ok (), some text, _ => some (.aborted ("stdout: " ++ text))
  | .ok (), none, some text => some (.aborted ("stderr: " ++ text))
  | .ok (), none, none => none

/-- What is captured of one command. -/
structure Output where
  stdout : List UInt8 := []
  stderr : List UInt8 := []
  error : Option Error := none
deriving DecidableEq

namespace Output

/-- Nothing was captured: the stream did not open. -/
def failed (e : Error) : Output := { error := some e }

def isSuccess (o : Output) : Bool := o.error.isNone

def stdoutText (o : Output) : String := Text.lossy o.stdout

def stderrText (o : Output) : String := Text.lossy o.stderr

/-- The output as a record, for diagnostics. -/
def diagnostic (o : Output) : String :=
  Text.record "StreamResult" [
    ("stdout", Text.quote o.stdoutText),
    ("stderr", Text.quote o.stderrText),
    ("error", Text.optional (o.error.map Error.diagnostic))]

end Output

namespace Session

/-- The session with only those channels that a request attaches. -/
def restricted (s : Session) (r : Request) : Session :=
  { s with
    stdin := if r.stdin then s.stdin else none
    stdout := if r.stdout then s.stdout else none
    stderr := if r.stderr then s.stderr else none }

/-- All that the session brings. -/
def output (s : Session) : Output where
  stdout := (s.stdout.map Channel.bytes).getD []
  stderr := (s.stderr.map Channel.bytes).getD []
  error := Error.ofParts? s.outcome (s.stdout.bind (·.fault)) (s.stderr.bind (·.fault))

/-- How long it takes until the input is closed. -/
def closing (s : Session) : Nat := (s.stdin.map Closing.took).getD 0

/-- How long the session lasts: until the input is closed and the slowest of the other parts has
ended. -/
def took (s : Session) : Nat :=
  max s.closing
    (max (max ((s.stdout.map Channel.took).getD 0) ((s.stderr.map Channel.took).getD 0)) s.exitTook)

/-- Reads both output channels while the command runs to its end. Commands get no input: an attached
input channel is closed before anything is read, and whether that succeeds makes no difference. What
the channels bring meanwhile is there when they are read. -/
def capture (s : Session) : Delayed Output :=
  .wait s.closing <|
    (Delayed.both ((Channel.drain s.stdout).elapse s.closing)
      (Delayed.both ((Channel.drain s.stderr).elapse s.closing)
        ((Delayed.wait s.exitTook (.ready s.outcome)).elapse s.closing))).map
          fun (stdout, stderr, outcome) => {
            stdout := stdout.1
            stderr := stderr.1
            error := Error.ofParts? outcome stdout.2 stderr.2 }

theorem result_capture (s : Session) : s.capture.result = s.output := by
  simp [capture, output, Delayed.result, Channel.result_drain]

theorem took_capture (s : Session) : s.capture.took = s.took := by
  simp only [capture, took, Delayed.took, Delayed.took_map, Delayed.took_both, Delayed.took_elapse,
    Channel.took_drain]
  omega

end Session

/-- The output of a request whose session opened or did not. -/
def Output.ofOpening : Except Error Session → Output
  | .ok session => session.output
  | .error e => .failed e

end BrokerRollout.Exec
