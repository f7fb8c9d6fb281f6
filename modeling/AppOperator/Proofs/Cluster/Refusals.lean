import AppOperator.Cluster.Rest
import AppOperator.Proofs.Json.Editing

/-!
# Refused requests

Every operation of a client is one request, and a response with a status from 400 on ends it
with the fault that the response reports.  That is an error of the API with the status of the
response where the body is a record or no document at all (`HttpResponse.Readable`).  In any
other document no reason and no message can be looked up, and what comes of that hides the
refusal.
-/

set_option autoImplicit false

namespace AppOperator

/-! ## Operations -/

inductive RestOperation where
  | call (call : ClientCall)
  | list (kind : ResourceKind) (namespaceName : Option String)
  | watch (kind : ResourceKind) (namespaceName version : Option String) (seconds : Int)

/-- The path that an operation sends its request to, or what is in the way of finding it. -/
def RestOperation.path : RestOperation → Except Fault String
  | .call (.get kind namespaceName name) | .call (.delete kind namespaceName name) =>
      .ok (kind.path (ResourceKind.partOf namespaceName) (ResourceKind.partOf name) none)
  | .call (.create kind object) => RestClient.collectionPath kind object
  | .call (.update kind object) => RestClient.objectPath kind object none
  | .call (.updateStatus kind object) => RestClient.objectPath kind object (some "status")
  | .list kind namespaceName => .ok (kind.path namespaceName none none)
  | .watch kind namespaceName _ _ => .ok (kind.path namespaceName none none)

def faultOf? {α : Type} : Except Fault α → Option Fault
  | .ok _ => none
  | .error fault => some fault

/-- Every request is answered with the same response. -/
def responding {Q R : Type} (response : R) (state : Unit) (_ : Q) :
    Except TransportFault R × Unit :=
  (.ok response, state)

namespace RestClient

def addressed (c : RestClient) (response : StreamResponse) : RestOperation → List String
  | .call call => ((c.call call).queries (responding response.head) ()).map (·.url)
  | .list kind namespaceName =>
      ((c.list kind namespaceName).queries (responding response.head) ()).map (·.url)
  | .watch kind namespaceName version seconds =>
      ((c.watch kind namespaceName version seconds).queries (responding response) ()).map (·.url)

/-- The events that an operation delivers and the fault that it ends with. -/
def outcome (c : RestClient) (response : StreamResponse) :
    RestOperation → List WatchEvent × Option Fault
  | .call call => ([], faultOf? ((c.call call).run (responding response.head) ()).1)
  | .list kind namespaceName =>
      ([], faultOf? ((c.list kind namespaceName).run (responding response.head) ()).1)
  | .watch kind namespaceName version seconds =>
      ((c.watch kind namespaceName version seconds).run (responding response) ()).1

variable {c : RestClient} {response : StreamResponse} {operation : RestOperation} {path : String}

/-- A request is sent once, whoever answers. -/
theorem queries_request {σ : Type} (connected : c.connected = true) (method path : String)
    (body : Option Json)
    (answer : σ → HttpRequest → Except TransportFault HttpResponse × σ) (state : σ) :
    (c.request method path body).queries answer state = [⟨method, c.address ++ path, body⟩] := by
  simp only [request, connected, Bool.not_true, Bool.false_eq_true, if_false, Dialogue.queries]

theorem run_request (connected : c.connected = true) (isError : response.head.isError = true)
    (method path : String) (body : Option Json) :
    (c.request method path body).run (responding response.head) () =
        (.error response.head.error, ()) ∧
      (c.request method path body).queries (responding response.head) () =
        [⟨method, c.address ++ path, body⟩] := by
  refine ⟨?_, queries_request connected method path body _ _⟩
  simp [request, connected, Dialogue.run, responding, HttpResponse.reply, isError]

/-- An operation with a path sends one request there, and ends as the response reports. -/
theorem refused (connected : c.connected = true) (isPath : operation.path = .ok path)
    (isError : response.head.isError = true) :
    c.addressed response operation = [c.address ++ path] ∧
      c.outcome response operation = ([], some response.head.error) := by
  have sent := run_request connected isError
  cases operation with
  | call call =>
      cases call with
      | get kind namespaceName name =>
          cases isPath
          simp [addressed, outcome, RestClient.call, sent, faultOf?]
      | create kind object =>
          have isPath : collectionPath kind object = .ok path := isPath
          simp [addressed, outcome, RestClient.call, requestAt, isPath, sent, faultOf?]
      | update kind object =>
          have isPath : objectPath kind object none = .ok path := isPath
          simp [addressed, outcome, RestClient.call, requestAt, isPath, sent, faultOf?]
      | updateStatus kind object =>
          have isPath : objectPath kind object (some "status") = .ok path := isPath
          simp [addressed, outcome, RestClient.call, requestAt, isPath, sent, faultOf?]
      | delete kind namespaceName name =>
          cases isPath
          simp [addressed, outcome, RestClient.call, bind, Dialogue.run_bind,
            Dialogue.queries_bind, sent, Dialogue.queries, faultOf?, pure, Dialogue.run, Except.map]
  | list kind namespaceName =>
      cases isPath
      simp [addressed, outcome, RestClient.list, bind, Dialogue.run_bind,
        Dialogue.queries_bind, sent, Dialogue.queries, faultOf?, pure, Dialogue.run, Except.bind]
  | watch kind namespaceName version seconds =>
      cases isPath
      simp [addressed, outcome, RestClient.watch, connected, Dialogue.queries, Dialogue.run,
        responding, watched, isError, watchRequest]

end RestClient

/-! ## What a response reports -/

namespace HttpResponse

inductive Readable (r : HttpResponse) : Prop where
  | record {fields : Fields} (holds : Json.parse r.text = .ok (.obj fields))
  | plain {error : Json.ReadError} (fails : Json.parse r.text = .error error)
      (shallow : error.isTooDeep = false)

instance (r : HttpResponse) : Decidable r.Readable :=
  match holds : Json.parse r.text with
  | .ok (.obj _) => .isTrue (.record holds)
  | .ok .null | .ok (.bool _) | .ok (.int _) | .ok (.float _) | .ok (.str _) | .ok (.arr _) =>
      .isFalse fun readable => by cases readable <;> simp_all
  | .error error =>
      match deep : error.isTooDeep with
      | false => .isTrue (.plain holds deep)
      | true => .isFalse fun readable => by cases readable <;> simp_all

/-- The fault that comes of reading a response as an error. -/
inductive Reports (r : HttpResponse) : Fault → Prop where
  | stated {fields : Fields} (holds : Json.parse r.text = .ok (.obj fields)) :
      Reports r (.api ⟨r.status = 404, .int r.status,
        (Fields.get? fields "reason").getD (.str (r.reason.getD "")),
        (Fields.get? fields "message").getD (.str r.text)⟩)
  | plain {error : Json.ReadError} (fails : Json.parse r.text = .error error)
      (shallow : error.isTooDeep = false) :
      Reports r (.api ⟨r.status = 404, .int r.status, .str (r.reason.getD ""), .str r.text⟩)
  | other {body : Json} (holds : Json.parse r.text = .ok body) (noRecord : ¬body.IsRecord) :
      Reports r (.noPart body.shape "get")
  | deep {error : Json.ReadError} (fails : Json.parse r.text = .error error)
      (deep : error.isTooDeep = true) : Reports r .tooDeep

theorem reports_error (r : HttpResponse) : r.Reports r.error := by
  unfold error
  split
  · next error fails =>
      split
      · next deep => exact .deep fails deep
      · next shallow => exact .plain fails (by simpa using shallow)
  · next body holds =>
      cases body with
      | obj fields => exact .stated holds
      | _ => exact .other holds (by rintro ⟨fields, same⟩; cases same)

theorem Reports.isApiError_iff {r : HttpResponse} {fault : Fault} (reports : r.Reports fault) :
    (∃ error, fault = .api error ∧ error.status = .int r.status ∧
      (error.notFound = true ↔ r.status = 404)) ↔ r.Readable := by
  cases reports with
  | stated holds => exact ⟨fun _ => .record holds, fun _ => ⟨_, rfl, rfl, by simp⟩⟩
  | plain fails shallow => exact ⟨fun _ => .plain fails shallow, fun _ => ⟨_, rfl, rfl, by simp⟩⟩
  | other holds noRecord =>
      refine ⟨fun ⟨_, same, _⟩ => (by cases same), fun readable => ?_⟩
      cases readable with
      | record record =>
          cases holds.symm.trans record
          exact absurd ⟨_, rfl⟩ noRecord
      | plain fails => cases holds.symm.trans fails
  | deep fails deep =>
      refine ⟨fun ⟨_, same, _⟩ => (by cases same), fun readable => ?_⟩
      cases readable with
      | record holds => cases holds.symm.trans fails
      | plain fails' shallow =>
          cases fails.symm.trans fails'
          rw [deep] at shallow
          cases shallow

end HttpResponse

/-- A response with a status from 400 on ends every operation that asked for it.  The fault is an
error of the API with that status, and says that something is missing exactly if the status is 404, if
and only if the body is a record or no document; then reason and message are those that it
states, or else the reason of the response and the body itself. -/
theorem refusal_is_api_error_iff_readable (c : RestClient) (operation : RestOperation)
    (path : String) (response : StreamResponse) (connected : c.connected = true)
    (isPath : operation.path = .ok path) (isError : 400 ≤ response.head.status) :
    c.addressed response operation = [c.address ++ path] ∧
      ∃ fault, c.outcome response operation = ([], some fault) ∧ response.head.Reports fault ∧
        ((∃ error, fault = .api error ∧ error.status = .int response.head.status ∧
          (error.notFound = true ↔ response.head.status = 404)) ↔ response.head.Readable) := by
  have failed : response.head.isError = true := decide_eq_true isError
  obtain ⟨addressed, outcome⟩ := RestClient.refused connected isPath failed
  have reports := response.head.reports_error
  exact ⟨addressed, _, outcome, reports, reports.isApiError_iff⟩

def sampleClient : RestClient :=
  ⟨"https://cluster", none, none, true, .ofInt 10, true, 0⟩

/-- A watch is refused with a status object, a read with words. -/
theorem refusal_is_api_error_of_a_record_and_of_words :
    let expired : HttpResponse := ⟨410, some "Gone", "\x7b\"code\":410,\"reason\":\"Expired\"\x7d"⟩
    let unknown : HttpResponse := ⟨404, none, "no such page"⟩
    sampleClient.connected = true ∧ 400 ≤ expired.status ∧ 400 ≤ unknown.status ∧
      (∃ error, sampleClient.outcome ⟨expired, [], none⟩ (.watch .service none none 60) =
          ([], some (.api error)) ∧ error.status = .int 410 ∧ error.notFound = false) ∧
      ∃ error, sampleClient.outcome ⟨unknown, [], none⟩
          (.call (.get .service (.str "default") (.str "web"))) = ([], some (.api error)) ∧
        error.status = .int 404 ∧ error.notFound = true := by
  intro expired unknown
  obtain ⟨-, fault, outcome, -, isApiError⟩ := refusal_is_api_error_iff_readable sampleClient
    (.watch .service none none 60) _ ⟨expired, [], none⟩ rfl rfl (by decide)
  obtain ⟨-, fault', outcome', -, isApiError'⟩ := refusal_is_api_error_iff_readable sampleClient
    (.call (.get .service (.str "default") (.str "web"))) _ ⟨unknown, [], none⟩ rfl rfl (by decide)
  obtain ⟨error, rfl, status, missing⟩ := isApiError.2 (by decide +kernel)
  obtain ⟨error', rfl, status', missing'⟩ := isApiError'.2 (by decide +kernel)
  refine ⟨rfl, by decide, by decide, ⟨error, outcome, status, ?_⟩, error', outcome', status',
    missing'.2 rfl⟩
  rw [Bool.eq_false_iff]
  exact fun claimed => absurd (missing.1 claimed) (by decide)

/-- The body `null` of a bad gateway hides that the request was refused. -/
theorem other_document_hides_a_refusal :
    let response : StreamResponse := ⟨⟨502, some "Bad Gateway", "null"⟩, [], none⟩
    sampleClient.connected = true ∧ 400 ≤ response.head.status ∧
      sampleClient.outcome response (.call (.get .service (.str "default") (.str "web"))) =
        ([], some (.noPart .null "get")) ∧
      ∀ error, sampleClient.outcome response
        (.call (.get .service (.str "default") (.str "web"))) ≠ ([], some (.api error)) := by
  intro response
  have holds : Json.parse response.head.text = .ok .null := eq_ok_of_toOption (by decide +kernel)
  have ends : sampleClient.outcome response
      (.call (.get .service (.str "default") (.str "web"))) = ([], some (.noPart .null "get")) := by
    obtain ⟨path, isPath⟩ : ∃ path,
        (RestOperation.call (.get .service (.str "default") (.str "web"))).path = .ok path :=
      ⟨_, rfl⟩
    have connected : sampleClient.connected = true := rfl
    have isError : response.head.isError = true := rfl
    have refused := (RestClient.refused connected isPath isError).2
    simp only [HttpResponse.error, holds] at refused
    exact refused
  refine ⟨rfl, by decide, ends, fun error isApi => ?_⟩
  rw [ends] at isApi
  cases isApi

end AppOperator
