import BrokerRollout.Plan
import BrokerRollout.Proofs.Catalog
import BrokerRollout.Proofs.Manifests
import BrokerRollout.Proofs.Requests

/-!
# A server of objects

An API server that keeps objects by plural, namespace and name. The store of such a server answers
all operations by what it holds (`Kube.ObjectServer.implements`), and so just as the store in memory
does. Main statement: `Kube.ObjectServer.answers_as_memory`.
-/

namespace BrokerRollout.Kube

/-! ### Servers -/

/-- Where a server keeps an object. -/
structure Key where
  plural : String
  ns : String
  name : String
deriving DecidableEq

/-- The objects that a server keeps. -/
abbrev ObjectServer := Table Key Json

namespace ObjectServer

/-- What a server says of its own accord. -/
structure Wording where
  /-- The body of a response that refuses a request with a status. -/
  refusal : Http.Request → Nat → List UInt8
  /-- The body of the response to the deletion of an object. -/
  farewell : Http.Request → Json → List UInt8

/-- The parts of a path below all namespaces. -/
def below (path : String) : List String :=
  if root <+: parts path then (parts path).drop root.length else []

/-- The name in an object's metadata. -/
def nameOf (object : Json) : String :=
  ((object.path? ["metadata", "name"]).bind Json.string?).getD ""

/-- The response to a request, and the objects after it. -/
def respond (words : Wording) (request : Http.Request) (server : ObjectServer) :
    Http.Response × ObjectServer :=
  match request.method, below request.path, request.body with
  | .post, [ns, plural], some object =>
    let key := { plural, ns, name := nameOf object }
    if server.contains key then (⟨409, words.refusal request 409⟩, server)
    else (⟨201, Text.utf8 object.compact⟩, server.insert key object)
  | .get, [ns, plural, name], _ =>
    match server.get? { plural, ns, name } with
    | some object => (⟨200, Text.utf8 object.compact⟩, server)
    | none => (⟨404, words.refusal request 404⟩, server)
  | .delete, [ns, plural, name], _ =>
    match server.get? { plural, ns, name } with
    | some object => (⟨200, words.farewell request object⟩, server.erase { plural, ns, name })
    | none => (⟨404, words.refusal request 404⟩, server)
  | _, _, _ => (⟨404, words.refusal request 404⟩, server)

def transport (words : Wording) : Transport ObjectServer where
  send request _ server :=
    let (response, state) := respond words request server
    { answer := .ok response, state, sent := [request] }
  upgrade request _ state := { answer := .ok { status := 404 }, state, sent := [request] }

/-- A client makes out what the server says: a refusal has the code of its status, and the deletion
of a manifest is answered by an object or a status. -/
structure Wording.Understood (words : Wording) : Prop where
  refused : ∀ request, ∀ status ∈ [404, 409], ∃ refusal : Refusal,
    textOf (.ok ⟨status, words.refusal request status⟩) = .error (.refused refusal) ∧
      refusal.code = status
  deleted : ∀ request, ∀ r : Resource, r.Narrow → ∃ document,
    deletion (.ok ⟨200, words.farewell request r.manifest⟩) = .ok document

/-! ### Keys -/

/-- Where the object of a resource is kept. -/
def keyOf (r : Ref) : Key := { plural := r.kind.plural, ns := r.ns, name := r.name }

theorem keyOf_injective {r q : Ref} (same : keyOf r = keyOf q) : r = q := by
  obtain ⟨kind, ns, name⟩ := r
  obtain ⟨kind', ns', name'⟩ := q
  simp only [keyOf, Key.mk.injEq] at same
  obtain ⟨plural, rfl, rfl⟩ := same
  rw [plural_injective plural]

theorem nameOf_manifest (r : Resource) : nameOf r.manifest = r.ref.name := by
  rw [Resource.manifest_eq]
  rfl

theorem below_of_parts {path : String} {names : List String} (h : parts path = root ++ names) :
    below path = names := by
  rw [below, h, if_pos (List.prefix_append ..), List.drop_left]

variable {words : Wording} {server : ObjectServer}

/-! ### Responses -/

theorem respond_create {r : Resource} (ns : DnsName r.ref.ns) :
    let request : Http.Request :=
      { method := .post, path := collectionPath r.ref, body := some r.manifest }
    respond words request server =
      if server.contains (keyOf r.ref) then (⟨409, words.refusal request 409⟩, server)
      else (⟨201, Text.utf8 r.manifest.compact⟩, server.insert (keyOf r.ref) r.manifest) := by
  intro request
  have place : below request.path = [r.ref.ns, r.ref.kind.plural] :=
    below_of_parts (parts_collectionPath ns)
  rw [respond, place]
  simp only [request, nameOf_manifest]
  rfl

theorem respond_get {r : Ref} (h : r.Addressable) :
    let request : Http.Request := { method := .get, path := resourcePath r }
    respond words request server =
      match server.get? (keyOf r) with
      | some object => (⟨200, Text.utf8 object.compact⟩, server)
      | none => (⟨404, words.refusal request 404⟩, server) := by
  intro request
  have place : below request.path = [r.ns, r.kind.plural, r.name] :=
    below_of_parts (parts_resourcePath h)
  rw [respond, place]
  rfl

theorem respond_delete {r : Ref} (h : r.Addressable) :
    let request : Http.Request :=
      { method := .delete, path := resourcePath r, body := some (.object []) }
    respond words request server =
      match server.get? (keyOf r) with
      | some object => (⟨200, words.farewell request object⟩, server.erase (keyOf r))
      | none => (⟨404, words.refusal request 404⟩, server) := by
  intro request
  have place : below request.path = [r.ns, r.kind.plural, r.name] :=
    below_of_parts (parts_resourcePath h)
  rw [respond, place]
  rfl

/-! ### What is made of the responses -/

namespace Wording.Understood

variable {request : Http.Request} {ref : Ref}

theorem created_conflict (h : words.Understood) :
    Kube.created ref (.ok ⟨409, words.refusal request 409⟩) = .error (.alreadyExists ref) := by
  obtain ⟨refusal, refused, code⟩ := h.refused request 409 (by decide)
  rw [Kube.created, documentOf, refused]
  exact if_pos code

theorem found_missing (h : words.Understood) :
    Kube.found ref (.ok ⟨404, words.refusal request 404⟩) = .ok none := by
  obtain ⟨refusal, refused, code⟩ := h.refused request 404 (by decide)
  rw [Kube.found, documentOf, refused]
  exact if_pos (congrArg some code)

theorem deleted_missing (h : words.Understood) :
    Kube.deleted (.ok ⟨404, words.refusal request 404⟩) = .ok () := by
  obtain ⟨refusal, refused, code⟩ := h.refused request 404 (by decide)
  rw [Kube.deleted, deletion, documentOf, refused]
  exact if_pos (congrArg some code)

theorem deleted_farewell (h : words.Understood) {r : Resource} (narrow : r.Narrow) :
    Kube.deleted (.ok ⟨200, words.farewell request r.manifest⟩) = .ok () := by
  obtain ⟨document, deleted⟩ := h.deleted request r narrow
  rw [Kube.deleted, deleted]

end Wording.Understood

/-- A request that was built is answered by what is made of the response to it. -/
theorem answerTo_ok {α : Type} {built : Except Error Http.Request} {request : Http.Request}
    (ok : built = .ok request) (answer : Except String Http.Response → Except Store.Error α)
    (now : Nat) :
    answerTo (transport words) built answer now server =
      { answer := answer (.ok (respond words request server).1)
        state := (respond words request server).2
        sent := [request] } := by
  rw [ok]
  rfl

theorem created_manifest {r : Resource} (narrow : r.Narrow) (ref : Ref) :
    created ref (.ok ⟨201, Text.utf8 r.manifest.compact⟩) = .ok () := by
  rw [created, documentOf_manifest narrow (by decide)]

theorem found_manifest {r : Resource} (narrow : r.Narrow) (ref : Ref) :
    found ref (.ok ⟨200, Text.utf8 r.manifest.compact⟩) =
      .ok (some { ref, ready := [], version := version r.manifest }) := by
  rw [found, documentOf_manifest narrow (by decide)]
  dsimp only
  rw [observe, readyWorkers_manifest]
  rfl

/-! ### Statuses -/

/-- The status that an API server refuses a request with. -/
def failure (status : Nat) : Json := .object [
  ("kind", "Status"), ("apiVersion", "v1"), ("metadata", .object []), ("status", "Failure"),
  ("message", Http.statusText status), ("code", .ofNat status)]

/-- The status that an API server confirms a deletion with. -/
def success : Json := .object [
  ("kind", "Status"), ("apiVersion", "v1"), ("metadata", .object []), ("status", "Success")]

/-- A server that says everything by statuses. -/
def Wording.statuses : Wording where
  refusal _ status := Text.utf8 (failure status).compact
  farewell _ _ := Text.utf8 success.compact

theorem code_failure : ∀ status ∈ [404, 409],
    (Refusal.ofResponse status (failure status).compact).code = status := by
  decide +kernel

theorem deletion_success : ∃ document,
    deletion (.ok ⟨200, Text.utf8 success.compact⟩) = .ok document := by
  have admits : Json.Admits Json.Shape.maxDepth .anything success :=
    .member .string (.member .string (.member .noMembers (.member .string .noMembers)))
  have kind : success.textAt "kind" = "Status" := by decide
  have ok : (Schema.deletionStatus.read (Text.utf8 success.compact)).isOk = true := by
    decide +kernel
  rw [deletion, documentOf_compact admits (by decide)]
  dsimp only
  rw [if_pos kind, documentOf, textOf_utf8 (by decide)]
  dsimp only
  cases read : Schema.deletionStatus.read (Text.utf8 success.compact) with
  | error fault =>
    rw [read] at ok
    cases ok
  | ok document => exact ⟨document, rfl⟩

theorem Wording.statuses_understood : statuses.Understood where
  refused request status listed := by
    refine ⟨.ofResponse status (failure status).compact, ?_, code_failure status listed⟩
    have failed : 400 ≤ status ∧ status < 600 := by
      simp only [List.mem_cons, List.not_mem_nil, or_false] at listed
      omega
    rw [textOf, statuses, Text.ofUtf8_utf8]
    exact if_pos failed
  deleted _ _ _ := deletion_success

/-! ### The store of a server -/

/-- The server keeps just the manifests of the resources of the catalog. -/
structure Holds (server : ObjectServer) (held : Catalog) : Prop where
  kept : ∀ ref ∈ held, ∃ r : Resource, r.Narrow ∧ server.get? (keyOf ref) = some r.manifest
  absent : ∀ ref ∉ held, server.get? (keyOf ref) = none

theorem holds_empty : Holds {} [] where
  kept _ member := nomatch member
  absent _ _ := rfl

/-- An operation on a resource that can be addressed; one that is created has numbers of 32 bits. -/
def Sound : Store.Op → Prop
  | .create resource => resource.ref.Addressable ∧ resource.Narrow
  | .get ref | .delete ref => ref.Addressable

namespace Holds

variable {held : Catalog} {ref : Ref} {r : Resource}

theorem contains (h : server.Holds held) : server.contains (keyOf ref) = true ↔ ref ∈ held := by
  by_cases there : ref ∈ held
  · obtain ⟨r, -, kept⟩ := h.kept ref there
    simp [Table.contains, kept, there]
  · simp [Table.contains, h.absent ref there, there]

theorem insert (h : server.Holds held) (narrow : r.Narrow) :
    Holds (server.insert (keyOf r.ref) r.manifest) (r.ref :: held) := by
  refine ⟨fun ref member => ?_, fun ref missing => ?_⟩
  · rw [Table.get?_insert]
    split
    · exact ⟨r, narrow, rfl⟩
    · next other =>
      exact h.kept ref (List.mem_of_ne_of_mem (fun same => other (congrArg keyOf same)) member)
  · obtain ⟨other, missing⟩ := not_or.1 (mt List.mem_cons.2 missing)
    rw [Table.get?_insert, if_neg fun same => other (keyOf_injective same)]
    exact h.absent ref missing

theorem erase (h : server.Holds held) (ref : Ref) :
    Holds (server.erase (keyOf ref)) (held.filter (· ≠ ref)) := by
  refine ⟨fun other member => ?_, fun other missing => ?_⟩
  · obtain ⟨member, apart⟩ := List.mem_filter.1 member
    rw [Table.get?_erase, if_neg fun same => of_decide_eq_true apart (keyOf_injective same)]
    exact h.kept other member
  · rw [Table.get?_erase]
    split
    · rfl
    · next apart =>
      exact h.absent other fun member => missing
        (List.mem_filter.2 ⟨member, decide_eq_true fun same => apart (congrArg keyOf same)⟩)

theorem create (h : server.Holds held) (understood : words.Understood)
    (addressable : r.ref.Addressable) (narrow : r.Narrow) (now : Nat) :
    let reply := (store (transport words)).create r now server
    reply.answer = (if r.ref ∈ held then .error (.alreadyExists r.ref) else .ok ()) ∧
      Holds reply.state (held.after (.create r)) := by
  intro reply
  have response : reply = _ := answerTo_ok (createRequest_ok addressable) (created r.ref) now
  rw [respond_create addressable.ns] at response
  by_cases there : r.ref ∈ held
  · rw [if_pos (h.contains.2 there)] at response
    rw [response, if_pos there, Catalog.after, if_pos there]
    exact ⟨understood.created_conflict, h⟩
  · rw [if_neg (mt h.contains.1 there)] at response
    rw [response, if_neg there, Catalog.after, if_neg there]
    exact ⟨created_manifest narrow r.ref, h.insert narrow⟩

theorem get (h : server.Holds held) (understood : words.Understood) (addressable : ref.Addressable)
    (now : Nat) :
    let reply := (store (transport words)).get ref now server
    (Store.Answer.read reply.answer).unversioned = held.answer (.get ref) ∧
      Holds reply.state held := by
  intro reply
  have response : reply = _ := answerTo_ok (getRequest_ok addressable) (Kube.found ref) now
  rw [respond_get addressable] at response
  by_cases there : ref ∈ held
  · -- What is kept is a manifest, and a manifest says nothing of ready workers.
    obtain ⟨r, narrow, kept⟩ := h.kept ref there
    rw [kept] at response
    rw [response, Catalog.answer, if_pos there]
    dsimp only
    rw [found_manifest narrow]
    exact ⟨rfl, h⟩
  · rw [h.absent ref there] at response
    rw [response, Catalog.answer, if_neg there]
    dsimp only
    rw [understood.found_missing]
    exact ⟨rfl, h⟩

theorem delete (h : server.Holds held) (understood : words.Understood)
    (addressable : ref.Addressable) (now : Nat) :
    let reply := (store (transport words)).delete ref now server
    reply.answer = .ok () ∧ Holds reply.state (held.after (.delete ref)) := by
  intro reply
  have response : reply = _ := answerTo_ok (deleteRequest_ok addressable) deleted now
  rw [respond_delete addressable] at response
  by_cases there : ref ∈ held
  · obtain ⟨r, narrow, kept⟩ := h.kept ref there
    rw [kept] at response
    rw [response]
    exact ⟨understood.deleted_farewell narrow, h.erase ref⟩
  · rw [h.absent ref there] at response
    have same : held.after (.delete ref) = held :=
      List.filter_eq_self.2 fun other member => decide_eq_true fun same => there (same ▸ member)
    rw [response, same]
    exact ⟨understood.deleted_missing, h⟩

end Holds

theorem implements (understood : words.Understood) :
    (store (transport words)).Implements Sound Holds where
  step {op server held} now sound holds := by
    cases op with
    | create r =>
      obtain ⟨answer, holds⟩ := holds.create understood sound.1 sound.2 now
      exact ⟨congrArg Store.Answer.written answer, holds⟩
    | get ref => exact holds.get understood sound now
    | delete ref =>
      obtain ⟨answer, holds⟩ := holds.delete understood sound now
      exact ⟨congrArg Store.Answer.written answer, holds⟩

/-! ### Agreement with the store in memory -/

/-- The store of an object server answers operations in a row as the store in memory does, versions
apart, if both are empty at first. Both answer by the catalog of what they hold, in which a deletion
always succeeds. Resources are read and deleted at paths of their own, and created at one for their
kind and namespace. -/
theorem answers_as_memory (understood : words.Understood) {ops : List Store.Op}
    (sound : ∀ op ∈ ops, Sound op) (now now' : Nat) :
    let served := ((store (transport words)).performAll now {} ops).map Store.Answer.unversioned
    let inMemory := (MemoryStore.store.performAll now' {} ops).map Store.Answer.unversioned
    (served = inMemory ∧ inMemory = Catalog.answers [] ops) ∧
      (∀ r : Ref, r.Addressable →
        (getRequest r).map Http.Request.path = .ok (resourcePath r) ∧
          (deleteRequest r).map Http.Request.path = .ok (resourcePath r)) ∧
      (∀ r : Resource, r.ref.Addressable →
        (createRequest r).map Http.Request.path = .ok (collectionPath r.ref)) ∧
      (∀ r q : Ref, r.Addressable → q.Addressable → resourcePath r = resourcePath q → r = q) ∧
      ∀ r q : Ref, r.Addressable → q.Addressable → collectionPath r = collectionPath q →
        r.kind = q.kind ∧ r.ns = q.ns := by
  intro served inMemory
  have byServer : served = Catalog.answers [] ops :=
    (implements understood).answers sound holds_empty now
  have byMemory : inMemory = Catalog.answers [] ops :=
    MemoryStore.implements.answers (fun _ _ => trivial) MemoryStore.holds_empty now'
  refine ⟨⟨byServer.trans byMemory.symm, byMemory⟩, fun r addressable => ?_,
    fun r addressable => ?_, fun r q hr hq => resourcePath_injective hr hq,
    fun r q hr hq => collectionPath_injective hr.ns hq.ns⟩
  · rw [getRequest_ok addressable, deleteRequest_ok addressable]
    exact ⟨rfl, rfl⟩
  · rw [createRequest_ok addressable]
    rfl

/-- A cluster is created, not created again, read, deleted twice and not found any more. -/
theorem answers_as_memory_cluster :
    let cluster : Cluster := { name := "ex-aao-broker", ns := "default", replicas := 2 }
    let ops : List Store.Op := [.create (.cluster cluster), .create (.cluster cluster),
      .get cluster.ref, .delete cluster.ref, .delete cluster.ref, .get cluster.ref]
    Wording.statuses.Understood ∧ (∀ op ∈ ops, Sound op) ∧
      ((store (transport .statuses)).performAll 0 {} ops).map Store.Answer.unversioned =
        [.written (.ok ()), .written (.error (.alreadyExists cluster.ref)),
          .read (.ok (some { ref := cluster.ref, ready := [], version := none })),
          .written (.ok ()), .written (.ok ()), .read (.ok none)] := by
  intro cluster ops
  have sound : ∀ op ∈ ops, Sound op := by
    have addressable : cluster.ref.Addressable := by decide
    have narrow : (Resource.cluster cluster).Narrow := ⟨by decide, nofun⟩
    simp only [ops, List.forall_mem_cons, List.not_mem_nil, false_imp_iff, implies_true, and_true]
    exact ⟨⟨addressable, narrow⟩, ⟨addressable, narrow⟩, addressable, addressable, addressable,
      addressable⟩
  obtain ⟨⟨same, answers⟩, -⟩ := answers_as_memory Wording.statuses_understood sound 0 0
  exact ⟨Wording.statuses_understood, sound, same.trans answers⟩

end ObjectServer

end BrokerRollout.Kube
