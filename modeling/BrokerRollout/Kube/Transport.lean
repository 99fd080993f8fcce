import BrokerRollout.Script
import BrokerRollout.Simulation
import BrokerRollout.Table

/-!
# Connections to an API server

A transport takes a request to the server: an ordinary one, or one that asks to switch to a stream
of frames. Transports differ in what is at the other end; one leads nowhere, another follows
scripts.
-/

namespace BrokerRollout.Kube

/-- A message of a stream: text, or bytes for a numbered channel. -/
inductive Frame where
  | text
  | binary (channel : Nat) (payload : List UInt8)
deriving DecidableEq

/-- What a server answers to a request for a stream: the status and headers of its reply, and the
frames that follow if it switches. -/
structure Upgrade where
  status : Nat := 101
  upgrade : String := "websocket"
  connection : String := "Upgrade"
  /-- Whether the reply proves that the server has read the request's key. -/
  acceptsKey : Bool := true
  subprotocol : String := "v4.channel.k8s.io"
  frames : List Frame := []
  /-- The connection breaks after the frames, instead of being closed. -/
  abrupt : Bool := false
deriving DecidableEq

/-- A way to an API server; a request that is lost on it has a reason. -/
structure Transport (σ : Type) where
  send : Http.Request → Nat → σ → Reply σ (Except String Http.Response)
  upgrade : Http.Request → Nat → σ → Reply σ (Except String Upgrade)

/-- The transport of a server that cannot be reached: nothing is ever sent. -/
def Transport.unreachable {σ : Type} : Transport σ where
  send _ _ state := { answer := .error "client error (Connect)", state }
  upgrade _ _ state := { answer := .error "client error (Connect)", state }

/-! ### Scripted servers -/

/-- A server that follows scripts: for ordinary requests by method and last part of the path, for
streams by worker. Scripts under a star serve all that have none of their own. -/
structure ScriptedServer where
  responses : Table String (Script (Except String Http.Response)) := {}
  streams : Table String (Script Upgrade) := {}

namespace ScriptedServer

/-- The script for a key, and the key it stands under. -/
def keyFor {α : Type} (t : Table String (Script α)) (key : String) : String :=
  if t.contains key then key else "*"

/-- What the script for a key brings next, and the scripts after that. -/
def use {α : Type} (t : Table String (Script α)) (key : String) :
    Option α × Table String (Script α) :=
  let key := keyFor t key
  ((t.get? key).bind Script.current?, t.modify key Script.advance)

/-- The parts of a path below its namespace. -/
def belowNamespace (path : String) : List String :=
  ((path.splitOn "/").dropWhile (· ≠ "namespaces")).drop 2

def responseKey (r : Http.Request) : String :=
  r.method.name ++ " " ++ "/".intercalate (belowNamespace r.path)

def streamKey (r : Http.Request) : String := ((belowNamespace r.path).drop 1).headD ""

/-- The response to a request that no script is for. -/
def notScripted : Http.Response where
  status := 404
  body := Text.utf8 (Json.compact (.object [
    ("status", "Failure"), ("message", "not scripted"), ("reason", "NotFound"),
    ("code", .ofNat 404)]))

def transport : Transport ScriptedServer where
  send request _ server :=
    let (next, responses) := use server.responses (responseKey request)
    { answer := next.getD (.ok notScripted)
      state := { server with responses }
      sent := [request] }
  upgrade request _ server :=
    let (next, streams) := use server.streams (streamKey request)
    { answer := .ok (next.getD { status := 404 })
      state := { server with streams }
      sent := [request] }

end ScriptedServer

end BrokerRollout.Kube
