import BrokerRollout.Http.Target
import BrokerRollout.Kube.Schema

/-!
# Failed API requests

A request fails before it is sent, on its way, by a status of the server, or because what comes back
is not understood. A server that refuses a request describes why in the body; where the body is no
such description, one is made of the status line and the body's text.
-/

namespace BrokerRollout.Kube

/-- A server's description of why it refused a request. -/
structure Refusal where
  status : String
  message : String
  reason : String
  code : Nat
deriving DecidableEq

namespace Refusal

/-- The refusal that an object describes. -/
def ofJson (object : Json) : Refusal where
  status := object.textAt "status"
  message := object.textAt "message"
  reason := object.textAt "reason"
  code := ((object.member? "code").bind Json.nat?).getD 0

/-- The refusal of a response that failed with some status and some text. -/
def ofResponse (status : Nat) (text : String) : Refusal :=
  match Schema.refusal.read (Text.utf8 text) with
  | .ok object => ofJson object
  | .error _ => {
      status := Http.statusText status
      message := Text.quote text
      reason := "Failed to parse error data"
      code := status }

/-- The refusal as a record, for diagnostics. -/
def diagnostic (r : Refusal) : String :=
  Text.record "ErrorResponse" [
    ("status", Text.quote r.status),
    ("message", Text.quote r.message),
    ("reason", Text.quote r.reason),
    ("code", toString r.code)]

end Refusal

/-- Why an API request did not succeed. -/
inductive Error where
  /-- The request was not built. -/
  | invalidRequest (reason : String)
  | invalidTarget (fault : Http.TargetFault)
  /-- The request or its response was lost. -/
  | lost (reason : String)
  | refused (refusal : Refusal)
  | notText (fault : Text.Fault)
  /-- The response was not understood. -/
  | unexpectedBody (fault : Json.Fault)
  /-- The server did not switch to a stream. -/
  | noStream (reason : String)
deriving DecidableEq

namespace Error

/-- An object is read and deleted by its name. -/
def emptyName : Error := .invalidRequest "A non-empty name is required"

/-- A stream has at least one channel. -/
def nothingAttached : Error :=
  .invalidRequest "AttachParams: one of stdin, stdout, or stderr must be true"

def message : Error → String
  | .invalidRequest reason => "Failed to build request: failed to validate request: " ++ reason
  | .invalidTarget fault =>
    "Failed to build request: failed to build request: " ++ fault.message
  | .lost reason => "ServiceError: " ++ reason
  | .refused r =>
    "ApiError: " ++ r.message ++ ": " ++ r.reason ++ " (" ++ r.diagnostic ++ ")"
  | .notText fault => "UTF-8 Error: " ++ fault.message
  | .unexpectedBody fault => "Error deserializing response: " ++ fault.message
  | .noStream reason => "failed to upgrade to a WebSocket connection: " ++ reason

/-- The code of a refusal. -/
def code? : Error → Option Nat
  | .refused r => some r.code
  | _ => none

end Error

/-- The request to a place, or why there is none. -/
def requestTo (method : Http.Method) (place : String) (query : Option (List (String × String)))
    (body : Option Json) : Except Error Http.Request :=
  (Http.Request.to? method place query body).mapError .invalidTarget

/-- The text of a response, unless its status is one of failure. -/
def textOf : Except String Http.Response → Except Error String
  | .error reason => .error (.lost reason)
  | .ok response =>
    match Text.ofUtf8 response.body with
    | .error fault => .error (.notText fault)
    | .ok text =>
      if 400 ≤ response.status ∧ response.status < 600 then
        .error (.refused (.ofResponse response.status text))
      else .ok text

/-- The document of some shape that a response brings. -/
def documentOf (shape : Json.Shape) (response : Except String Http.Response) :
    Except Error Json :=
  match textOf response with
  | .error e => .error e
  | .ok text => (shape.read (Text.utf8 text)).mapError .unexpectedBody

end BrokerRollout.Kube
