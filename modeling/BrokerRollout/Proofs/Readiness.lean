import BrokerRollout.Proofs.ObjectServer
import BrokerRollout.Proofs.Polling

/-!
# Readiness by responses

A look at a cluster of an API server is one request, and the response decides what it comes to: the
object that the response brings lists the ready workers under `status`, `podStatus` and `ready`, or
it has nothing there, or something that is no list of texts. Main statement: each of the looks at a
cluster is judged by its own response, and what the probe remembers is the last list that a response
showed (`Kube.looks_judged`).
-/

namespace BrokerRollout

variable {σ : Type}

/-! ### Places in a value -/

namespace Json

variable {name : String} {path : List String} {x v : Json}

/-- The value is at the end of a path of member names. Of members of one name the last counts. -/
inductive At : List String → Json → Json → Prop where
  | here {x : Json} : At [] x x
  | under {name : String} {path : List String} {before after : List (String × Json)} {x v : Json}
      (last : ∀ m ∈ after, m.1 ≠ name) (rest : At path x v) :
      At (name :: path) (.object (before ++ (name, x) :: after)) v

theorem member?_eq_some_iff : x.member? name = some v ↔ ∃ before after,
    x = .object (before ++ (name, v) :: after) ∧ ∀ m ∈ after, m.1 ≠ name := by
  cases x with
  | object members =>
    simp only [member?, Option.map_eq_some_iff, List.find?_eq_some_iff_append]
    constructor
    · rintro ⟨⟨other, v⟩, ⟨named, after, before, split, none⟩, rfl⟩
      obtain rfl : other = name := by simpa using named
      have whole : members = before.reverse ++ (other, v) :: after.reverse := by
        simpa using congrArg List.reverse split
      exact ⟨before.reverse, after.reverse, by rw [whole], by simpa using none⟩
    · rintro ⟨before, after, same, last⟩
      obtain rfl := object.inj same
      exact ⟨(name, v), ⟨by simp, after.reverse, before.reverse, by simp, by simpa using last⟩, rfl⟩
  | _ => simp [member?]

theorem path?_eq_some_iff : x.path? path = some v ↔ At path x v := by
  induction path generalizing x with
  | nil =>
    rw [path?, Option.some.injEq]
    constructor
    · rintro rfl
      exact .here
    · rintro ⟨⟩
      rfl
  | cons name path ih =>
    rw [path?, Option.bind_eq_some_iff]
    constructor
    · rintro ⟨inner, found, further⟩
      obtain ⟨before, after, rfl, last⟩ := member?_eq_some_iff.1 found
      exact .under last (ih.1 further)
    · rintro ⟨⟩
      next before after inner last rest =>
        exact ⟨inner, member?_eq_some_iff.2 ⟨before, after, rfl, last⟩, ih.2 rest⟩

end Json

namespace Kube

open Json (At)

/-! ### Lists of ready workers -/

/-- Where an object lists its ready workers. -/
abbrev readyPath : List String := ["status", "podStatus", "ready"]

/-- The names that an object lists as ready. -/
inductive Lists (object : Json) : List String → Prop where
  | listed {names : List String} (found : At readyPath object (.strings names)) :
      Lists object names
  | null (found : At readyPath object .null) : Lists object []
  | unreachable (nowhere : ∀ v, ¬At readyPath object v) : Lists object []

/-- What the object has in the place of the list is no list of texts. -/
inductive Misreports (object : Json) : Prop where
  | item {items : List Json} {item : Json} (found : At readyPath object (.array items))
      (member : item ∈ items) (noText : ∀ text, item ≠ .string text)
  | value {v : Json} (found : At readyPath object v) (some : v ≠ .null)
      (noList : ∀ items, v ≠ .array items)

variable {object : Json} {names : List String}

theorem texts_strings (names : List String) : texts (names.map .string) = .ok names := by
  induction names with
  | nil => rfl
  | cons name names ih => simp [texts, ih, Except.map]

/-- A list is one of texts, or the first item that is none is made out. -/
theorem texts_cases (items : List Json) : (∃ names : List String, items = names.map .string) ∨
    (∃ item ∈ items, ∀ text, item ≠ .string text) ∧ ∃ reason, texts items = .error reason := by
  induction items with
  | nil => exact .inl ⟨[], rfl⟩
  | cons item items ih =>
    by_cases isText : ∃ text, item = .string text
    · obtain ⟨text, rfl⟩ := isText
      rcases ih with ⟨names, rfl⟩ | ⟨⟨item, member, noText⟩, reason, failed⟩
      · exact .inl ⟨text :: names, rfl⟩
      · refine .inr ⟨⟨item, .tail _ member, noText⟩, reason, ?_⟩
        rw [texts, failed, Except.map]
    · have noText : ∀ text, item ≠ .string text := fun text same => isText ⟨text, same⟩
      exact .inr ⟨⟨item, .head _, noText⟩, _, texts.eq_3 _ _ noText⟩

theorem readyWorkers_cases (object : Json) :
    (∃ names, Lists object names ∧ readyWorkers object = .ok names) ∨
      Misreports object ∧ ∃ reason, readyWorkers object = .error reason := by
  rw [readyWorkers]
  cases found : object.path? ["status", "podStatus", "ready"] with
  | none =>
    have nowhere : ∀ v, ¬At readyPath object v := by
      intro v there
      cases found.symm.trans (Json.path?_eq_some_iff.2 there)
    exact .inl ⟨[], .unreachable nowhere, rfl⟩
  | some v =>
    have there : At readyPath object v := Json.path?_eq_some_iff.1 found
    cases v with
    | null => exact .inl ⟨[], .null there, rfl⟩
    | array items =>
      rcases texts_cases items with ⟨names, rfl⟩ | ⟨⟨item, member, noText⟩, failed⟩
      · exact .inl ⟨names, .listed there, texts_strings names⟩
      · exact .inr ⟨.item there member noText, failed⟩
    | _ => exact .inr ⟨.value there nofun nofun, _, rfl⟩

theorem readyWorkers_eq_ok_iff : readyWorkers object = .ok names ↔ Lists object names := by
  constructor
  · intro ok
    rcases readyWorkers_cases object with ⟨names', lists, ok'⟩ | ⟨-, reason, failed⟩
    · cases ok.symm.trans ok'
      exact lists
    · cases ok.symm.trans failed
  · intro lists
    rw [readyWorkers]
    cases lists with
    | listed found =>
      rw [Json.path?_eq_some_iff.2 found]
      exact texts_strings names
    | null found => rw [Json.path?_eq_some_iff.2 found]
    | unreachable nowhere =>
      have missing : object.path? readyPath = none := by
        refine Option.eq_none_iff_forall_ne_some.2 fun v there => ?_
        exact nowhere v (Json.path?_eq_some_iff.1 there)
      rw [missing]

theorem readyWorkers_eq_error_iff :
    (∃ reason, readyWorkers object = .error reason) ↔ Misreports object := by
  constructor
  · rintro ⟨reason, failed⟩
    rcases readyWorkers_cases object with ⟨names', -, ok⟩ | ⟨misreports, -⟩
    · cases failed.symm.trans ok
    · exact misreports
  · intro misreports
    rw [readyWorkers]
    cases misreports with
    | @item items item found member noText =>
      rw [Json.path?_eq_some_iff.2 found]
      rcases texts_cases items with ⟨names, rfl⟩ | ⟨-, failed⟩
      · obtain ⟨text, -, rfl⟩ := List.mem_map.1 member
        exact absurd rfl (noText text)
      · exact failed
    | @value v found some noList =>
      rw [Json.path?_eq_some_iff.2 found]
      cases v with
      | null => exact absurd rfl some
      | array items => exact absurd rfl (noList items)
      | _ => exact ⟨_, rfl⟩

/-! ### Responses -/

/-- The status of the response is one of success. -/
def Successful (r : Http.Response) : Prop := 200 ≤ r.status ∧ r.status < 300

/-- A success that is understood as an object. -/
def Brings (response : Except String Http.Response) (object : Json) : Prop :=
  ∃ r, response = .ok r ∧ Successful r ∧ documentOf Schema.object response = .ok object

/-- The client makes a refusal with this code of the response. -/
def Refuses (response : Except String Http.Response) (code : Nat) : Prop :=
  ∃ refusal, documentOf Schema.object response = .error (.refused refusal) ∧ refusal.code = code

/-- The response is lost, or is a success that is not understood. -/
inductive Fails : Except String Http.Response → Prop where
  | lost {reason : String} : Fails (.error reason)
  | notUnderstood {r : Http.Response} {e : Error} (success : Successful r)
      (unread : documentOf Schema.object (.ok r) = .error e) : Fails (.ok r)

/-- If the response is no success, then the client makes a refusal of it. -/
def Regular (response : Except String Http.Response) : Prop :=
  ∀ r, response = .ok r → ¬Successful r → ∃ code, Refuses response code

section Responses

variable {ref : Ref} {response : Except String Http.Response} (regular : Regular response)

theorem code?_of_successful {shape : Json.Shape} {r : Http.Response} {e : Error}
    (success : Successful r) (unread : documentOf shape (.ok r) = .error e) : e.code? = none := by
  have noRefusal : ¬(400 ≤ r.status ∧ r.status < 600) := by
    have := success.2
    omega
  rw [documentOf] at unread
  cases decoded : Text.ofUtf8 r.body with
  | error fault =>
    simp only [textOf, decoded] at unread
    cases unread
    rfl
  | ok text =>
    simp only [textOf, decoded, if_neg noRefusal] at unread
    cases read : shape.read (Text.utf8 text) with
    | error fault =>
      rw [read] at unread
      cases unread
      rfl
    | ok object =>
      rw [read] at unread
      cases unread

theorem refuses_iff {code : Nat} : Refuses response code ↔
    ∃ e, documentOf Schema.object response = .error e ∧ e.code? = some code := by
  constructor
  · rintro ⟨refusal, refused, rfl⟩
    exact ⟨_, refused, rfl⟩
  · rintro ⟨e, refused, same⟩
    cases e with
    | refused refusal => exact ⟨refusal, refused, Option.some.inj same⟩
    | _ => cases same

theorem found_eq_none_iff : found ref response = .ok none ↔ Refuses response 404 := by
  rw [refuses_iff, found]
  cases documentOf Schema.object response with
  | error e => by_cases gone : e.code? = some 404 <;> simp [gone]
  | ok object =>
    dsimp only [observe]
    cases readyWorkers object <;> simp [Except.map]

include regular

theorem brings_iff {object : Json} :
    Brings response object ↔ documentOf Schema.object response = .ok object := by
  constructor
  · rintro ⟨_, -, -, read⟩
    exact read
  · intro read
    cases response with
    | error reason => cases read
    | ok r =>
      by_cases success : Successful r
      · exact ⟨r, rfl, success, read⟩
      · obtain ⟨_, _, refused, -⟩ := regular r rfl success
        cases read.symm.trans refused

theorem fails_iff : Fails response ↔
    ∃ e, documentOf Schema.object response = .error e ∧ e.code? = none := by
  constructor
  · rintro (_ | ⟨success, unread⟩)
    · exact ⟨_, rfl, rfl⟩
    · exact ⟨_, unread, code?_of_successful success unread⟩
  · rintro ⟨e, unread, noCode⟩
    cases response with
    | error reason => exact .lost
    | ok r =>
      by_cases success : Successful r
      · exact .notUnderstood success unread
      · obtain ⟨_, _, refused, -⟩ := regular r rfl success
        cases unread.symm.trans refused
        cases noCode

theorem found_eq_some_iff {o : Store.Observation} : found ref response = .ok (some o) ↔
    ∃ object names, Brings response object ∧ Lists object names ∧
      o = { ref, ready := names, version := version object } := by
  simp only [brings_iff regular, ← readyWorkers_eq_ok_iff]
  rw [found]
  cases documentOf Schema.object response with
  | error e =>
    dsimp only
    split <;> simp
  | ok object =>
    dsimp only [observe]
    cases ready : readyWorkers object <;> simp [Except.map, ready, eq_comm]

theorem found_undecodable_iff {r : Ref} :
    (∃ reason, found ref response = .error (.undecodable r reason)) ↔
      r = ref ∧ ∃ object, Brings response object ∧ Misreports object := by
  simp only [brings_iff regular, ← readyWorkers_eq_error_iff]
  rw [found]
  cases documentOf Schema.object response with
  | error e =>
    dsimp only
    split <;> simp
  | ok object =>
    dsimp only [observe]
    cases ready : readyWorkers object <;> simp [Except.map, ready, eq_comm]

theorem found_backend_iff : (∃ reason, found ref response = .error (.backend reason)) ↔
    Fails response ∨ ∃ code, Refuses response code ∧ code ≠ 404 := by
  simp only [fails_iff regular, refuses_iff]
  rw [found]
  cases documentOf Schema.object response with
  | error e =>
    dsimp only
    cases code : e.code? with
    | none => simp [code]
    | some code' => by_cases gone : code' = 404 <;> simp [code, gone]
  | ok object =>
    dsimp only [observe]
    cases readyWorkers object <;> simp [Except.map]

end Responses

end Kube

/-! ### Verdicts -/

namespace ReadyProbe

variable {cluster : Ref} {expected : Nat} {answer : ReadAnswer}

theorem judge_mismatch_iff {ref : Ref} {wanted observed : Nat} :
    judge cluster expected answer = .error (.readyMismatch ref wanted observed) ↔
      (ref = cluster ∧ wanted = expected) ∧ observed ≠ expected ∧
        ∃ o, answer = .ok (some o) ∧ o.readyCount = observed := by
  rcases answer with e | _ | found
  · simp [judge, ReadAnswer.existing]
  · simp [judge, ReadAnswer.existing]
  · rw [judge_found]
    constructor
    · split
      next =>
        intro passed
        cases passed
      next unmet =>
        rintro ⟨⟩
        exact ⟨⟨rfl, rfl⟩, unmet, found, rfl, rfl⟩
    · rintro ⟨⟨rfl, rfl⟩, unmet, _, ⟨⟩, rfl⟩
      rw [if_neg unmet]

theorem judge_missing_iff {ref : Ref} :
    judge cluster expected answer = .error (.missing ref) ↔ ref = cluster ∧ answer = .ok none := by
  rcases answer with e | _ | found
  · simp [judge, ReadAnswer.existing]
  · simp [judge, ReadAnswer.existing, eq_comm]
  · rw [judge_found]
    split <;> simp

theorem judge_store_iff {e : Store.Error} :
    judge cluster expected answer = .error (.store e) ↔ answer = .error e := by
  rcases answer with e' | _ | found
  · simp [judge, ReadAnswer.existing]
  · simp [judge, ReadAnswer.existing]
  · rw [judge_found]
    split <;> simp

end ReadyProbe

/-! ### Looks -/

namespace Kube

variable {t : Transport σ} {p p' p'' : ReadyProbe} {w w' w'' : World σ}
  {response : Except String Http.Response} {responses more : List (Except String Http.Response)}
  {last last' last'' : Option Nat}

/-- The object that the response brings lists these names. -/
def Shows (response : Except String Http.Response) (names : List String) : Prop :=
  ∃ object, Brings response object ∧ Lists object names

/-- One look at a cluster: the response to its request, and what it came to. -/
structure Look where
  response : Except String Http.Response
  result : Except NotConverged Store.Observation

/-- A look came to what its response says. -/
structure Look.Judged (cluster : Ref) (expected : Nat) (look : Look) : Prop where
  passed : ∀ o, look.result = .ok o ↔ ∃ object names, Brings look.response object ∧
    Lists object names ∧ names.length = expected ∧
      o = { ref := cluster, ready := names, version := version object }
  mismatched : ∀ ref wanted observed,
    look.result = .error (.readyMismatch ref wanted observed) ↔
      (ref = cluster ∧ wanted = expected) ∧ observed ≠ expected ∧
        ∃ names, Shows look.response names ∧ names.length = observed
  undecodable : ∀ ref, (∃ reason, look.result = .error (.store (.undecodable ref reason))) ↔
    ref = cluster ∧ ∃ object, Brings look.response object ∧ Misreports object
  missing : ∀ ref, look.result = .error (.missing ref) ↔
    ref = cluster ∧ Refuses look.response 404
  failed : (∃ reason, look.result = .error (.store (.backend reason))) ↔
    Fails look.response ∨ ∃ code, Refuses look.response code ∧ code ≠ 404

/-- None of the responses shows a list. -/
def Silent (responses : List (Except String Http.Response)) : Prop :=
  ∀ r ∈ responses, ∀ names, ¬Shows r names

/-- What is remembered after several responses: how long the last list is that one of them shows. -/
inductive Remembers (last : Option Nat) :
    List (Except String Http.Response) → Option Nat → Prop where
  | before {responses : List (Except String Http.Response)} (silent : Silent responses) :
      Remembers last responses last
  | shown {earlier later : List (Except String Http.Response)}
      {response : Except String Http.Response} {names : List String}
      (shows : Shows response names) (silent : Silent later) :
      Remembers last (earlier ++ response :: later) (some names.length)

theorem Remembers.append (first : Remembers last responses last')
    (second : Remembers last' more last'') : Remembers last (responses ++ more) last'' := by
  cases second with
  | before silent =>
    cases first with
    | before silent' => exact .before (List.forall_mem_append.2 ⟨silent', silent⟩)
    | shown shows silent' =>
      rw [List.append_assoc, List.cons_append]
      exact .shown shows (List.forall_mem_append.2 ⟨silent', silent⟩)
  | shown shows silent =>
    rw [← List.append_assoc]
    exact .shown shows silent

/-- What comes back to the request for a cluster. -/
def replyTo (t : Transport σ) (cluster : Ref) (w : World σ) :
    Reply σ (Except String Http.Response) :=
  t.send { method := .get, path := resourcePath cluster } w.now w.state

/-- Looks at a cluster in a row. Time may pass between two of them. -/
inductive Looks (t : Transport σ) : ReadyProbe → World σ → List Look → ReadyProbe → World σ → Prop
    where
  | done {p : ReadyProbe} {w : World σ} : Looks t p w [] p w
  | pause {p p' : ReadyProbe} {w w' : World σ} {looks : List Look} (time : Nat)
      (later : w.now ≤ time) (rest : Looks t p { w with now := time } looks p' w') :
      Looks t p w looks p' w'
  | next {p p' p'' : ReadyProbe} {w w' w'' : World σ} {looks : List Look}
      {result : Except NotConverged Store.Observation}
      (ran : ((ReadyProbe.attempt (store t)).run p).run w = ((result, p'), w'))
      (rest : Looks t p' w' looks p'' w'') :
      Looks t p w (⟨(replyTo t p.cluster w).answer, result⟩ :: looks) p'' w''

theorem attempt_run_ready (t : Transport σ) (p : ReadyProbe) (w : World σ)
    (addressable : p.cluster.Addressable) :
    let reply := replyTo t p.cluster w
    let answer := found p.cluster reply.answer
    let ended := w.now + reply.took
    ((ReadyProbe.attempt (store t)).run p).run w =
      ((ReadyProbe.judge p.cluster p.expected answer, p.remember answer),
        { w with
          now := ended
          state := reply.state
          journal := w.journal ++ [⟨.get p.cluster answer, w.now, ended, reply.sent⟩] }) := by
  intro reply answer ended
  have asked : (store t).get p.cluster w.now w.state = reply.map (found p.cluster) := by
    show answerTo t (getRequest p.cluster) (found p.cluster) w.now w.state = _
    rw [getRequest_ok addressable]
    rfl
  rw [ReadyProbe.attempt_run]
  show ((ReadyProbe.judge _ _ ((store t).get p.cluster w.now w.state).answer, _), _) = _
  rw [asked]
  rfl

section Attempts

variable {cluster : Ref} {expected : Nat} (regular : Regular response)

include regular

theorem judged_of_response :
    Look.Judged cluster expected
      ⟨response, ReadyProbe.judge cluster expected (found cluster response)⟩ where
  passed o := by
    rw [ReadyProbe.judge_eq_ok_iff, found_eq_some_iff regular]
    constructor
    · rintro ⟨⟨object, names, brings, lists, rfl⟩, met⟩
      exact ⟨object, names, brings, lists, met, rfl⟩
    · rintro ⟨object, names, brings, lists, met, rfl⟩
      exact ⟨⟨object, names, brings, lists, rfl⟩, met⟩
  mismatched ref wanted observed := by
    rw [ReadyProbe.judge_mismatch_iff]
    refine and_congr_right' (and_congr_right' ?_)
    simp only [found_eq_some_iff regular]
    constructor
    · rintro ⟨_, ⟨object, names, brings, lists, rfl⟩, count⟩
      exact ⟨names, ⟨object, brings, lists⟩, count⟩
    · rintro ⟨names, ⟨object, brings, lists⟩, count⟩
      exact ⟨_, ⟨object, names, brings, lists, rfl⟩, count⟩
  undecodable ref := by
    simp only [ReadyProbe.judge_store_iff]
    exact found_undecodable_iff regular
  missing ref := by rw [ReadyProbe.judge_missing_iff, found_eq_none_iff]
  failed := by
    simp only [ReadyProbe.judge_store_iff]
    exact found_backend_iff regular

theorem remembers_response (last : Option Nat) :
    Remembers last [response] ((ReadAnswer.ready? (found cluster response)).or last) := by
  by_cases shows : ∃ names, Shows response names
  · obtain ⟨names, object, brings, lists⟩ := shows
    have seen : found cluster response =
        .ok (some { ref := cluster, ready := names, version := version object }) :=
      (found_eq_some_iff regular).2 ⟨object, names, brings, lists, rfl⟩
    rw [seen]
    show Remembers last ([] ++ [response]) _
    exact .shown ⟨object, brings, lists⟩ nofun
  · have silent : Silent [response] := by
      rintro _ (_ | ⟨_, ⟨⟩⟩) names shown
      exact shows ⟨names, shown⟩
    have unseen : ReadAnswer.ready? (found cluster response) = none := by
      rcases answered : found cluster response with e | _ | o
      · rfl
      · rfl
      · obtain ⟨object, names, brings, lists, -⟩ := (found_eq_some_iff regular).1 answered
        exact absurd ⟨names, object, brings, lists⟩ shows
    rw [unseen]
    exact .before silent

end Attempts

/-- Each of the looks at a cluster is judged by its own response, and all that changes about the
probe is the length of the last list that a response showed. -/
theorem looks_judged (addressable : p.cluster.Addressable) {looks : List Look}
    (looked : Looks t p w looks p' w') (regular : ∀ look ∈ looks, Regular look.response) :
    (∀ look ∈ looks, look.Judged p.cluster p.expected) ∧
      p' = { p with lastObserved := p'.lastObserved } ∧
      Remembers p.lastObserved (looks.map Look.response) p'.lastObserved := by
  induction looked with
  | done => exact ⟨nofun, rfl, .before nofun⟩
  | pause _ _ _ ih => exact ih addressable regular
  | @next p p' _ w _ _ looks result ran _ ih =>
    obtain ⟨regularHere, regularLater⟩ := List.forall_mem_cons.1 regular
    have here := ran.symm.trans (attempt_run_ready t p w addressable)
    obtain ⟨rfl, rfl⟩ := Prod.mk.inj (Prod.mk.inj here).1
    -- An attempt changes neither the cluster nor how many workers of it are expected.
    obtain ⟨judged, same, remembers⟩ := ih addressable regularLater
    refine ⟨List.forall_mem_cons.2 ⟨judged_of_response regularHere, judged⟩, same, ?_⟩
    exact (remembers_response regularHere p.lastObserved).append remembers

/-- Two workers are ready, and then the cluster is gone. -/
theorem looks_judged_gone :
    let cluster : Ref := ⟨.cluster, "default", "ex-aao-broker"⟩
    let object : Json :=
      .object [("status", .object [("podStatus", .object [("ready", .strings ["a", "b"])])])]
    let sent : Except String Http.Response := .ok ⟨200, Text.utf8 object.compact⟩
    let gone : Except String Http.Response :=
      .ok ⟨404, Text.utf8 (ObjectServer.failure 404).compact⟩
    let t : Transport (List (Except String Http.Response)) := {
      send := fun _ _ rest => { answer := rest.headD (.error "closed"), state := rest.tail }
      upgrade := fun _ _ rest => { answer := .error "closed", state := rest } }
    ∃ first second p' w',
      Looks t { cluster, expected := 2 } { state := [sent, gone] }
          [⟨sent, first⟩, ⟨gone, second⟩] p' w' ∧
        first = .ok { ref := cluster, ready := ["a", "b"], version := none } ∧
        second = .error (.missing cluster) ∧
        Remembers none [sent, gone] p'.lastObserved := by
  intro cluster object sent gone t
  have admits : Json.Admits Json.Shape.maxDepth Schema.object object := by
    refine .extra rfl rfl (.member (.member ?_ .noMembers) .noMembers) (by simp) ?_
    · exact .arrayMap (fun _ => .string) ["a", "b"]
    · exact .noFields (by simp)
  have success : Successful ⟨200, Text.utf8 object.compact⟩ := ⟨by decide, by decide⟩
  have brings : Brings sent object :=
    ⟨_, rfl, success, documentOf_compact admits (by decide)⟩
  have lists : Lists object ["a", "b"] := .listed (Json.path?_eq_some_iff.1 rfl)
  have refuses : Refuses gone 404 := by
    obtain ⟨refusal, refused, code⟩ := ObjectServer.Wording.statuses_understood.refused
      { method := .get, path := resourcePath cluster } 404 (by decide)
    have understood : textOf gone = .error (.refused refusal) := refused
    exact ⟨refusal, by rw [documentOf, understood], code⟩
  have regular : Regular sent ∧ Regular gone := by
    constructor
    · intro r same failed
      obtain rfl := Except.ok.inj same
      exact absurd success failed
    · intro _ _ _
      exact ⟨404, refuses⟩
  have addressable : cluster.Addressable := by decide
  have looked : Looks t { cluster, expected := 2 } { state := [sent, gone] }
      [⟨sent, _⟩, ⟨gone, _⟩] _ _ :=
    .next (attempt_run_ready _ _ _ addressable) (.next (attempt_run_ready _ _ _ addressable) .done)
  obtain ⟨judged, -, remembers⟩ := looks_judged addressable looked
    (List.forall_mem_cons.2 ⟨regular.1, List.forall_mem_singleton.2 regular.2⟩)
  obtain ⟨first, rest⟩ := List.forall_mem_cons.1 judged
  have second := List.forall_mem_singleton.1 rest
  refine ⟨_, _, _, _, looked, ?_, ?_, remembers⟩
  · exact (first.passed _).2 ⟨object, _, brings, lists, rfl, rfl⟩
  · exact (second.missing _).2 ⟨rfl, refuses⟩

end Kube

end BrokerRollout
