import AppOperator.Proofs.Command.Versions
import AppOperator.Proofs.Yaml.Building

/-!
# Submitting a declaration

A submission asks for the object first.  The answer says that there is none, or it brings the
object; it fails in a way that is reported; or it breaks the command off (`finding`).  Only an
object that is brought keeps the submission from creating one: a failure that is reported counts
as if there were none.
-/

set_option autoImplicit false

namespace AppOperator.Command

abbrev Answer := Except TransportFault HttpResponse

/-- What an answer says about an object that was asked for. -/
inductive Finding where
  | missing
  | found (object : Json)
  | failed
  | broken (fault : Fault)

/-- What a response with an error says: it is reported with the message of its body, which is a
record or no document at all. -/
def refusalFinding (response : HttpResponse) : Finding :=
  match Json.parse response.text with
  | .ok (.obj _) => .failed
  | .ok other => .broken (.noPart other.shape "get")
  | .error error => if error.isTooDeep then .broken .tooDeep else .failed

/-- What a response without an error says; a document that is null brings nothing. -/
def bodyFinding (response : HttpResponse) : Finding :=
  match Json.parse response.text with
  | .ok .null => .failed
  | .ok object => .found object
  | .error error =>
      if error.isTooDeep then .broken .tooDeep
      else if error.isLimit then .broken (.badValue (error.message response.text.toList))
      else .failed

def finding : Answer → Finding
  | .error (.connection _) | .error .timeout => .failed
  | .error (.other fault) => .broken fault
  | .ok response =>
      if response.status = 404 then .missing
      else if 400 ≤ response.status ∧ response.status < 600 then refusalFinding response
      else bodyFinding response

def Finding.outcome : Finding → Except Ending (Option Json)
  | .missing | .failed => .ok none
  | .found object => .ok (some object)
  | .broken fault => .error (.fault fault)

/-! ## Commands as dialogues -/

namespace CommandM

variable {α β : Type} {m : CommandM α} {f : α → CommandM β} {console after : Console}

theorem bind_of_ok {a : α} (ends : m console = .done (.ok a, after)) :
    (m >>= f) console = f a after := by
  change Dialogue.bind (m console) _ = _
  rw [ends]
  rfl

theorem bind_of_error {ending : Ending} (ends : m console = .done (.error ending, after)) :
    (m >>= f) console = .done (.error ending, after) := by
  change Dialogue.bind (m console) _ = _
  rw [ends]
  rfl

end CommandM

variable {s : Session} {submission : Submission} {url : String} {response : HttpResponse}
  {quiet : Bool} {console : Console}

namespace Session

theorem errorLine?_eq_none_iff :
    errorLine? url response = none ↔ ¬ (400 ≤ response.status ∧ response.status < 600) := by
  simp only [errorLine?, Option.map_eq_none_iff, Bool.and_eq_true, decide_eq_true_eq]
  split
  · simp only [reduceCtorEq, false_iff]
    omega
  · split
    · simp only [reduceCtorEq, false_iff]
      omega
    · simp only [true_iff]
      omega

/-- The detail of an error can be given exactly if the error is reported. -/
theorem detailLine_cases (response : HttpResponse) :
    (∃ detail, detailLine response = .ok detail ∧ refusalFinding response = .failed) ∨
      ∃ fault, detailLine response = .error fault ∧ refusalFinding response = .broken fault := by
  unfold detailLine refusalFinding
  cases Json.parse response.text with
  | ok body =>
      cases body with
      | obj fields => exact .inl ⟨_, rfl, rfl⟩
      | _ => exact .inr ⟨_, rfl, rfl⟩
  | error error =>
      dsimp only
      split
      · exact .inr ⟨_, rfl, rfl⟩
      · exact .inl ⟨_, rfl, rfl⟩

theorem received_refused (console : Console) {line : String}
    (isLine : errorLine? url response = some line) (loud : (quiet && response.status == 404) = false) : ∃ after,
    received url quiet response console = .done ((refusalFinding response).outcome, after) := by
  simp only [received, loud, isLine, Bool.false_eq_true, if_false]
  obtain ⟨detail, isDetail, finding⟩ | ⟨fault, isFault, finding⟩ := detailLine_cases response
  · rw [finding, isDetail]
    exact ⟨_, rfl⟩
  · rw [finding, isFault]
    exact ⟨_, rfl⟩

theorem received_body (console : Console) (noLine : errorLine? url response = none)
    (loud : (quiet && response.status == 404) = false) : ∃ after,
    received url quiet response console = .done ((bodyFinding response).outcome, after) := by
  simp only [received, loud, noLine, Bool.false_eq_true, if_false, bodyFinding]
  cases Json.parse response.text with
  | ok body => cases body <;> exact ⟨_, rfl⟩
  | error error =>
      dsimp only
      by_cases deep : error.isTooDeep = true
      · simp only [deep, if_true]
        exact ⟨_, rfl⟩
      · by_cases limit : error.isLimit = true
        · simp only [deep, limit, if_true]
          exact ⟨_, rfl⟩
        · simp only [deep, limit]
          exact ⟨_, rfl⟩

theorem received_object (response : HttpResponse) : ∃ after,
    received url true response console = .done ((finding (.ok response)).outcome, after) := by
  by_cases missing : response.status = 404
  · refine ⟨console, ?_⟩
    simp [received, finding, missing]
    rfl
  · have loud : (true && response.status == 404) = false := by simpa using missing
    simp only [finding, if_neg missing]
    by_cases refused : 400 ≤ response.status ∧ response.status < 600
    · have someLine : errorLine? url response ≠ none :=
        fun none => errorLine?_eq_none_iff.mp none refused
      obtain ⟨line, isLine⟩ := Option.ne_none_iff_exists'.mp someLine
      rw [if_pos refused]
      exact received_refused console isLine loud
    · rw [if_neg refused]
      exact received_body console (errorLine?_eq_none_iff.mpr refused) loud

/-- Receiving sends nothing. -/
theorem received_done (response : HttpResponse) : ∃ ends,
    received url quiet response console = .done ends := by
  by_cases loud : (quiet && response.status == 404) = false
  · cases line : errorLine? url response with
    | some text =>
        obtain ⟨after, ends⟩ := received_refused console line loud
        exact ⟨_, ends⟩
    | none =>
        obtain ⟨after, ends⟩ := received_body console line loud
        exact ⟨_, ends⟩
  · simp only [received, Bool.not_eq_false] at loud ⊢
    rw [loud]
    exact ⟨_, rfl⟩

def sending (s : Session) (method path : String) (document : Option Json) : SessionRequest :=
  ⟨⟨method, s.address ++ path, document⟩, requestHeaders s.token, s.verification, s.timeout⟩

def brought (url : String) (quiet : Bool) : Answer → CommandM (Option Json)
  | .ok response => received url quiet response
  | .error (.connection text) => do
      CommandM.complain ("Error: " ++ text ++ "\n")
      return none
  | .error .timeout => do
      CommandM.complain "Error: the request timed out\n"
      return none
  | .error (.other fault) => throw (.fault fault)

theorem request_eq (s : Session) (method path : String) (document : Option Json) (quiet : Bool)
    (console : Console) : s.request method path document quiet console =
      .ask (s.sending method path document) fun answer =>
        brought (s.address ++ path) quiet answer console := by
  rfl

theorem brought_done (answer : Answer) : ∃ ends, brought url quiet answer console = .done ends := by
  cases answer with
  | ok response => exact received_done response
  | error failure => cases failure <;> exact ⟨_, rfl⟩

theorem brought_object (url : String) (answer : Answer) (console : Console) : ∃ after,
    brought url true answer console = .done ((finding answer).outcome, after) := by
  cases answer with
  | ok response => exact received_object response
  | error failure => cases failure <;> exact ⟨_, rfl⟩

/-! ## What is sent after the object was asked for -/

/-- The request that a submission writes with, or why there is none. -/
def write? (s : Session) (submission : Submission) : Finding → Except Fault SessionRequest
  | .missing | .failed => submission.document.map fun document =>
      s.sending "POST" submission.collectionPath (some document)
  | .found object => (submission.replacing object).map fun document =>
      s.sending "PUT" submission.objectPath (some document)
  | .broken fault => .error fault

def writeWith (s : Session) (method path : String) (document : Except Fault Json) :
    CommandM (Option Json) := do
  let document ← CommandM.orFault document
  s.request method path (some document) false

def goOn (s : Session) (submission : Submission) : Option Json → CommandM (Option Json)
  | none => s.writeWith "POST" submission.collectionPath submission.document
  | some existing => s.writeWith "PUT" submission.objectPath (submission.replacing existing)

theorem submit_asks (s : Session) (submission : Submission) (console : Console) :
    s.submit submission console = .ask (s.sending "GET" submission.objectPath none) fun answer =>
      (brought (s.address ++ submission.objectPath) true answer >>= s.goOn submission) console := by
  rfl

/-- A computation sends one request and ends, or sends none and ends in the fault that keeps it
from one. -/
def Writes (request? : Except Fault SessionRequest)
    (d : Dialogue SessionRequest Answer (Except Ending (Option Json) × Console)) : Prop :=
  match request? with
  | .ok request => ∃ ends : Answer → Except Ending (Option Json) × Console,
      d = .ask request fun reply => .done (ends reply)
  | .error fault => ∃ after, d = .done (.error (.fault fault), after)

theorem writes_writeWith (s : Session) (method path : String) (document : Except Fault Json)
    (console : Console) :
    Writes (document.map fun x => s.sending method path (some x))
      (s.writeWith method path document console) := by
  cases document with
  | error fault => exact ⟨console, rfl⟩
  | ok x =>
      -- each answer has an end of its own, so the ends are chosen for all of them at once
      have ended : ∀ reply, ∃ ends, brought (s.address ++ path) false reply console = .done ends :=
        brought_done
      refine ⟨fun reply => (ended reply).choose, ?_⟩
      change s.request method path (some x) false console = _
      rw [request_eq]
      exact congrArg _ (funext fun reply => (ended reply).choose_spec)

theorem writes_goOn (s : Session) (submission : Submission) (url : String) (answer : Answer)
    (console : Console) :
    Writes (s.write? submission (finding answer))
      ((brought url true answer >>= s.goOn submission) console) := by
  obtain ⟨after, ends⟩ := brought_object url answer console
  cases heard : finding answer with
  | missing | failed =>
      rw [heard] at ends
      rw [CommandM.bind_of_ok ends]
      exact s.writes_writeWith _ _ _ _
  | found object =>
      rw [heard] at ends
      rw [CommandM.bind_of_ok ends]
      exact s.writes_writeWith _ _ _ _
  | broken fault =>
      rw [heard] at ends
      rw [CommandM.bind_of_error ends]
      exact ⟨after, rfl⟩

section Runs

variable {σ : Type} {answer : σ → SessionRequest → Answer × σ} {state : σ}
  {request? : Except Fault SessionRequest}
  {d : Dialogue SessionRequest Answer (Except Ending (Option Json) × Console)}

theorem Writes.queries_eq (writes : Writes request? d) :
    d.queries answer state = request?.toOption.toList := by
  cases request? with
  | ok request =>
      obtain ⟨ends, rfl⟩ := writes
      rfl
  | error fault =>
      obtain ⟨after, rfl⟩ := writes
      rfl

theorem Writes.ends_in_fault {fault : Fault} (writes : Writes (.error fault) d) :
    (d.run answer state).1.1 = .error (.fault fault) := by
  obtain ⟨after, rfl⟩ := writes
  rfl

/-- All that a submission sends: the request for the object, and the write if there is one. -/
theorem queries_submit (s : Session) (submission : Submission) (console : Console)
    (answer : σ → SessionRequest → Answer × σ) (state : σ) :
    (s.submit submission console).queries answer state =
      s.sending "GET" submission.objectPath none ::
        (s.write? submission
          (finding (answer state (s.sending "GET" submission.objectPath none)).1)).toOption.toList := by
  rw [submit_asks, Dialogue.queries]
  generalize answer state (s.sending "GET" submission.objectPath none) = heard
  rw [← (s.writes_goOn submission _ heard.1 console).queries_eq]

theorem submit_ends_in_fault (s : Session) (submission : Submission) (console : Console) {fault : Fault}
    (keeps : s.write? submission
      (finding (answer state (s.sending "GET" submission.objectPath none)).1) = .error fault) :
    ((s.submit submission console).run answer state).1.1 = .error (.fault fault) := by
  have writes := s.writes_goOn submission (s.address ++ submission.objectPath)
    (answer state (s.sending "GET" submission.objectPath none)).1 console
  rw [keeps] at writes
  rw [submit_asks, Dialogue.run]
  exact writes.ends_in_fault

end Runs

end Session

/-- No two keys of a record are the same, as far as the form of the document allows it. -/
def Loaded.KeysDiffer : Loaded → Prop
  | .json _ => True
  | .yaml d => d.KeysDiffer

/-- The document in a file has no two keys that are the same. -/
theorem keysDiffer_of_document {surroundings : Surroundings} {name : String} {loaded : Loaded}
    (reads : surroundings.document name = .ok loaded) : loaded.KeysDiffer := by
  unfold Surroundings.document at reads
  split at reads
  · cases reads
  · split at reads
    · cases reads
    · cases reads
    · next content _ =>
        dsimp only at reads
        split at reads
        · cases parsed : Yaml.Document.ofText content with
          | error fault =>
              rw [parsed] at reads
              cases reads
          | ok d =>
              rw [parsed] at reads
              cases reads
              exact Yaml.Document.keysDiffer_of_ofText parsed
        · split at reads
          · cases reads
            trivial
          · cases reads

/-- An object that was found has been read from the body of a response. -/
theorem namesDiffer_of_finding {answer : Answer} {object : Json}
    (isFound : finding answer = .found object) : object.NamesDiffer := by
  unfold finding at isFound
  split at isFound
  · cases isFound
  · cases isFound
  · cases isFound
  · split at isFound
    · cases isFound
    · split at isFound
      · unfold refusalFinding at isFound
        split at isFound
        · cases isFound
        · cases isFound
        · split at isFound <;> cases isFound
      · unfold bodyFinding at isFound
        split at isFound
        · cases isFound
        · next reads =>
            cases isFound
            exact Json.namesDiffer_of_parse reads
        · split at isFound
          · cases isFound
          · split at isFound <;> cases isFound

open Submission in
theorem carries_version {loaded : Loaded} {existing document : Json}
    (loads : loaded.submission = .ok submission) (keys : loaded.KeysDiffer)
    (names : existing.NamesDiffer) (replaces : submission.replacing existing = .ok document) :
    ∃ version, existing.dig? versionPath = some version ∧
      document.dig? versionPath = some version := by
  cases loaded with
  | json x =>
      obtain ⟨version, isVersion, carried⟩ := carries_ofJson loads replaces
      exact ⟨version, versionOf_eq_ok_iff.mp isVersion, carried⟩
  | yaml d =>
      obtain ⟨version, isVersion, carried⟩ := carries_ofYaml keys names loads replaces
      exact ⟨version, versionOf_eq_ok_iff.mp isVersion, carried⟩

/-- A submission asks for its object first, and it sends at most one request more.  If the server
has no such object, and just so if asking fails in a way that is reported, this creates the object;
if the answer brings the object, this replaces it and carries its version.  If the answer breaks
the command off, or if there is no document that can be sent, nothing is written and the command
ends in that fault.  A document from a file has keys that differ (`keysDiffer_of_document`). -/
theorem submission_creates_unless_found {loaded : Loaded}
    (loads : loaded.submission = .ok submission) (keys : loaded.KeysDiffer) (s : Session)
    {σ : Type} (answer : σ → SessionRequest → Answer × σ) (console : Console) (state : σ) :
    let asked := s.sending "GET" submission.objectPath none
    let heard := finding (answer state asked).1
    let sent := (s.submit submission console).queries answer state
    let ending := ((s.submit submission console).run answer state).1.1
    (heard = .missing ∨ heard = .failed →
      (∀ document, submission.document = .ok document →
        sent = [asked, s.sending "POST" submission.collectionPath (some document)]) ∧
      ∀ fault, submission.document = .error fault →
        sent = [asked] ∧ ending = .error (.fault fault)) ∧
    (∀ object, heard = .found object →
      (∀ document, submission.replacing object = .ok document →
        sent = [asked, s.sending "PUT" submission.objectPath (some document)] ∧
          ∃ version, object.dig? Submission.versionPath = some version ∧
            document.dig? Submission.versionPath = some version) ∧
      ∀ fault, submission.replacing object = .error fault →
        sent = [asked] ∧ ending = .error (.fault fault)) ∧
    ∀ fault, heard = .broken fault → sent = [asked] ∧ ending = .error (.fault fault) := by
  intro asked heard sent ending
  have isSent : sent = asked :: (s.write? submission heard).toOption.toList :=
    s.queries_submit submission console answer state
  have broken : ∀ fault, s.write? submission heard = .error fault →
      sent = [asked] ∧ ending = .error (.fault fault) := by
    intro fault keeps
    refine ⟨?_, s.submit_ends_in_fault submission console keeps⟩
    rw [isSent, keeps]
    rfl
  refine ⟨?created, ?replaced, ?stopped⟩
  case created =>
    intro none
    have write : s.write? submission heard = submission.document.map fun document =>
        s.sending "POST" submission.collectionPath (some document) := by
      obtain missing | failed := none
      · rw [missing]
        rfl
      · rw [failed]
        rfl
    constructor
    · intro document isDocument
      rw [isSent, write, isDocument]
      rfl
    · intro fault isFault
      exact broken fault (by rw [write, isFault]; rfl)
  case replaced =>
    intro object isFound
    have write : s.write? submission heard = (submission.replacing object).map fun document =>
        s.sending "PUT" submission.objectPath (some document) := by
      rw [isFound]
      rfl
    constructor
    · intro document isDocument
      refine ⟨?_, carries_version loads keys (namesDiffer_of_finding isFound) isDocument⟩
      rw [isSent, write, isDocument]
      rfl
    · intro fault isFault
      exact broken fault (by rw [write, isFault]; rfl)
  case stopped =>
    intro fault isBroken
    exact broken fault (by rw [isBroken]; rfl)

/-- Metadata without a namespace, in a document of two records. -/
def yamlSample : Yaml.Document :=
  ⟨#[.record [(.text "metadata", .part 1), (.truth true, .null)], .record [(.text "name", .text "web")]],
    .part 0⟩

theorem yamlSample_keysDiffer : yamlSample.KeysDiffer := by
  intro record entries isRecord
  obtain ⟨number, rfl, has⟩ := Yaml.Document.entries?_eq_some_iff.mp isRecord
  match number with
  | 0 | 1 =>
      cases has
      simp [Yaml.Entries.KeysDiffer, Yaml.Value.sameKey, Yaml.Value.numeric?]
  | number + 2 => cases has

def liveAnswer : Answer :=
  .ok ⟨200, none, "\x7b\"metadata\":\x7b\"resourceVersion\":\"7\"\x7d\x7d"⟩

theorem finding_liveAnswer : finding liveAnswer =
    .found (.obj [("metadata", .obj [("resourceVersion", .str "7")])]) := by
  have reads : Json.parse "\x7b\"metadata\":\x7b\"resourceVersion\":\"7\"\x7d\x7d" =
      .ok (.obj [("metadata", .obj [("resourceVersion", .str "7")])]) :=
    eq_ok_of_toOption (by decide +kernel)
  simp only [finding, liveAnswer, bodyFinding, reads]
  rfl

theorem submission_creates_unless_found_of_a_live_object : ∃ submission document,
    (Loaded.yaml yamlSample).submission = .ok submission ∧ yamlSample.KeysDiffer ∧
      ∀ (s : Session) (console : Console),
        (s.submit submission console).queries (fun (_ : Unit) _ => (liveAnswer, ())) () =
          [s.sending "GET" submission.objectPath none,
            s.sending "PUT" submission.objectPath (some document)] ∧
        document.dig? Submission.versionPath = some (.str "7") := by
  have loads : ∃ submission, (Loaded.yaml yamlSample).submission = .ok submission ∧
      ∃ document, submission.replacing
        (.obj [("metadata", .obj [("resourceVersion", .str "7")])]) = .ok document := by
    exact ⟨_, rfl, _, rfl⟩
  obtain ⟨submission, loads, document, replaces⟩ := loads
  refine ⟨submission, document, loads, yamlSample_keysDiffer, fun s console => ?_⟩
  obtain ⟨sent, version, states, carries⟩ := ((submission_creates_unless_found loads
    yamlSample_keysDiffer s (fun (_ : Unit) _ => (liveAnswer, ())) console ()).2.1 _
      finding_liveAnswer).1 document replaces
  cases states
  exact ⟨sent, carries⟩

def refusedAnswer : Answer :=
  .ok ⟨500, some "Internal Server Error", "\x7b\"message\":\"etcd timed out\"\x7d"⟩

/-- A read that the server fails to carry out is followed by a creation, although nothing says
that there is no such object. -/
theorem failing_read_is_followed_by_a_creation : ∃ submission document,
    Submission.ofJson (.obj [("metadata", .obj [("name", .str "web")])]) = .ok submission ∧
      ∀ (s : Session) (console : Console),
        (s.submit submission console).queries (fun (_ : Unit) _ => (refusedAnswer, ())) () =
          [s.sending "GET" submission.objectPath none,
            s.sending "POST" submission.collectionPath (some document)] := by
  have reads : Json.parse "\x7b\"message\":\"etcd timed out\"\x7d" =
      .ok (.obj [("message", .str "etcd timed out")]) := eq_ok_of_toOption (by decide +kernel)
  have failed : finding refusedAnswer = .failed := by
    simp only [finding, refusedAnswer, refusalFinding, reads]
    rfl
  obtain ⟨submission, document, loads, isDocument⟩ : ∃ submission document,
      Submission.ofJson (.obj [("metadata", .obj [("name", .str "web")])]) = .ok submission ∧
        submission.document = .ok document := ⟨_, _, rfl, rfl⟩
  refine ⟨submission, document, loads, fun s console => ?_⟩
  rw [Session.queries_submit, failed, Session.write?, isDocument]
  rfl

end AppOperator.Command
