import BrokerRollout.Kube.Error
import BrokerRollout.Kube.Transport

/-!
# The store of an API server

Resources are created, read and deleted by requests on paths of their own. What comes back has to
be an object, even where nothing of it is wanted, or the status of a deletion. What a read observes
is taken from the object's status; a resource that is not there any more counts as deleted.
-/

namespace BrokerRollout.Kube

/-! ### Requests -/

/-- The path under which resources of a kind are created. -/
def collectionPath (r : Ref) : String :=
  "/apis/" ++ apiVersion ++ "/namespaces/" ++ r.ns ++ "/" ++ r.kind.plural

/-- The path of one resource. -/
def resourcePath (r : Ref) : String := collectionPath r ++ "/" ++ r.name

/-- The request for creating a resource. -/
def createRequest (resource : Resource) : Except Error Http.Request :=
  requestTo .post (collectionPath resource.ref) (some []) (some resource.manifest)

/-- The request for reading a resource, which has to have a name. -/
def getRequest (r : Ref) : Except Error Http.Request :=
  if r.name.isEmpty then .error .emptyName else requestTo .get (resourcePath r) none none

/-- The request for deleting a resource, which has to have a name. -/
def deleteRequest (r : Ref) : Except Error Http.Request :=
  if r.name.isEmpty then .error .emptyName
  else requestTo .delete (resourcePath r) (some []) (some (.object []))

/-! ### Responses -/

/-- The texts of a list, or what is wrong with the first item that is none. -/
def texts : List Json → Except String (List String)
  | [] => .ok []
  | .string text :: rest => (texts rest).map (text :: ·)
  | item :: _ => .error (Json.Reason.unfit item.description "a string").message

/-- The workers that an object's status lists as ready; without a list there are none. -/
def readyWorkers (object : Json) : Except String (List String) :=
  match object.path? ["status", "podStatus", "ready"] with
  | none | some .null => .ok []
  | some (.array items) => texts items
  | some other => .error (Json.Reason.unfit other.description "a sequence").message

/-- The version in an object's metadata. -/
def version (object : Json) : Option String :=
  (object.path? ["metadata", "resourceVersion"]).bind Json.string?

/-- What an object shows of the resource that was asked for. -/
def observe (r : Ref) (object : Json) : Except Store.Error Store.Observation :=
  match readyWorkers object with
  | .error reason => .error (.undecodable r reason)
  | .ok ready => .ok { ref := r, ready, version := version object }

/-- What the response to a creation answers. -/
def created (r : Ref) (response : Except String Http.Response) : Except Store.Error Unit :=
  match documentOf Schema.object response with
  | .ok _ => .ok ()
  | .error (.refused refusal) =>
    if refusal.code = 409 then .error (.alreadyExists r)
    else if refusal.code = 400 ∨ refusal.code = 422 then .error (.rejected r refusal.message)
    else .error (.backend (Error.refused refusal).message)
  | .error e => .error (.backend e.message)

/-- What the response to a read answers. -/
def found (r : Ref) (response : Except String Http.Response) :
    Except Store.Error (Option Store.Observation) :=
  match documentOf Schema.object response with
  | .ok object => (observe r object).map some
  | .error e =>
    if e.code? = some 404 then .ok none else .error (.backend e.message)

/-- The object or the status that answers a deletion. A document says itself which it is. -/
def deletion (response : Except String Http.Response) : Except Error Json :=
  match documentOf .anything response with
  | .error e => .error e
  | .ok document =>
    if document.textAt "kind" = "Status" then documentOf Schema.deletionStatus response
    else documentOf Schema.object response

/-- What the response to a deletion answers. -/
def deleted (response : Except String Http.Response) : Except Store.Error Unit :=
  match deletion response with
  | .ok _ => .ok ()
  | .error e => if e.code? = some 404 then .ok () else .error (.backend e.message)

/-! ### The store -/

variable {σ : Type}

/-- Sends a request, if there is one, and makes an answer of the response. -/
def answerTo {α : Type} (t : Transport σ) (request : Except Error Http.Request)
    (answer : Except String Http.Response → Except Store.Error α) (now : Nat) (state : σ) :
    Reply σ (Except Store.Error α) :=
  match request with
  | .error e => { answer := .error (.backend e.message), state }
  | .ok request => (t.send request now state).map answer

/-- The store behind a transport. -/
def store (t : Transport σ) : Store σ where
  create resource := answerTo t (createRequest resource) (created resource.ref)
  get ref := answerTo t (getRequest ref) (found ref)
  delete ref := answerTo t (deleteRequest ref) deleted

end BrokerRollout.Kube
