import AppOperator.Cluster.Rest
import AppOperator.Command.Submission
import AppOperator.Settings
import AppOperator.Text.Control

/-!
# Sessions with the API server

What a person asks for at the command line is carried out with single requests.
A request that fails is reported and brings nothing; a document that is null is
nothing as well.  `Session.submit` creates a declaration where asking for it
brings nothing, and replaces what is there otherwise.

A command is a dialogue with whoever carries requests.  It writes to a console,
and it may end before its end.
-/

set_option autoImplicit false

namespace AppOperator.Command

/-- How the certificate of the server is verified. -/
inductive Verification where
  | always
  | never
  | byFile (path : String)
deriving DecidableEq, Repr

structure SessionRequest where
  request : HttpRequest
  headers : List (String × String)
  verification : Verification
  timeout : Binary64

/-- How a command ends before its end. -/
inductive Ending where
  | exit (code : Nat)
  | fault (fault : Fault)

/-- The lines that can still be read, and what has been written. -/
structure Console where
  input : List String
  out : String
  err : String

/-- A computation over requests, with a console and an early end. -/
abbrev CommandM :=
  ExceptT Ending (StateT Console (Dialogue SessionRequest (Except TransportFault HttpResponse)))

namespace CommandM

/-- Puts a text behind the output as it is. -/
def put (text : String) : CommandM Unit :=
  modify fun console => { console with out := console.out ++ text }

/-- Writes to the output, without styles. -/
def write (text : String) : CommandM Unit :=
  put (Text.withoutStyles text)

def say (line : String) : CommandM Unit :=
  write (line ++ "\n")

/-- Writes to the error output, without styles. -/
def complain (text : String) : CommandM Unit :=
  modify fun console => { console with err := console.err ++ Text.withoutStyles text }

def exit {α : Type} (code : Nat) : CommandM α :=
  throw (.exit code)

/-- Goes on with a value, or ends with the fault. -/
def orFault {α : Type} : Except Fault α → CommandM α
  | .ok value => pure value
  | .error fault => throw (.fault fault)

def ask (request : SessionRequest) : CommandM (Except TransportFault HttpResponse) :=
  fun console => .ask request fun answer => .done (.ok answer, console)

end CommandM

/-- Where requests of the command line go, and with what. -/
structure Session where
  address : String
  token : Option String
  verification : Verification
  timeout : Binary64

namespace Session

def ofSettings (settings : ClusterSettings) : Session where
  address := Text.trimEnd '/' settings.apiUrl
  token := settings.token
  verification :=
    if settings.verifySsl then
      match settings.caFile.filter (· != "") with
      | some file => .byFile file
      | none => .always
    else .never
  timeout := settings.requestTimeout

/-- The first line of the report on a response, if its status is an error. -/
def errorLine? (url : String) (response : HttpResponse) : Option String :=
  let kind? :=
    if 400 ≤ response.status && response.status < 500 then some "Client"
    else if 500 ≤ response.status && response.status < 600 then some "Server"
    else none
  kind?.map fun kind =>
    Decimal.intText response.status ++ " " ++ kind ++ " Error: "
      ++ response.reason.getD "None" ++ " for url: " ++ url

/-- The second line: the message of the body, the body as a document, or as text. -/
def detailLine (response : HttpResponse) : Except Fault String :=
  match Json.parse response.text with
  | .ok body => do return "Detail: " ++ (← body.fieldOr "message" body).spoken
  | .error error =>
      if error.isTooDeep then .error .tooDeep else .ok ("Response: " ++ response.text)

def present (x : Json) : Option Json :=
  if x == .null then none else some x

/-- What a response brings.  `quiet` says that it may be that nothing is found. -/
def received (url : String) (quiet : Bool) (response : HttpResponse) : CommandM (Option Json) := do
  if quiet && response.status == 404 then return none
  match errorLine? url response with
  | some line =>
      CommandM.complain ("Error: " ++ line ++ "\n")
      CommandM.complain ((← CommandM.orFault (detailLine response)) ++ "\n")
      return none
  | none =>
      match Json.parse response.text with
      | .ok x => return present x
      | .error error =>
          let message := error.message response.text.toList
          if error.isTooDeep then throw (.fault .tooDeep)
          if error.isLimit then throw (.fault (.badValue message))
          CommandM.complain ("Error: " ++ message ++ "\n")
          return none

/-- Sends a request to a path and takes what it brings. -/
def request (s : Session) (method path : String) (document : Option Json) (quiet : Bool) :
    CommandM (Option Json) := do
  let url := s.address ++ path
  match ← CommandM.ask ⟨⟨method, url, document⟩, requestHeaders s.token, s.verification, s.timeout⟩ with
  | .ok response => received url quiet response
  | .error (.connection text) =>
      CommandM.complain ("Error: " ++ text ++ "\n")
      return none
  | .error .timeout =>
      CommandM.complain "Error: the request timed out\n"
      return none
  | .error (.other fault) => throw (.fault fault)

/-- Creates a declaration, or replaces the one that is there; gives what the server
answers. -/
def submit (s : Session) (submission : Submission) : CommandM (Option Json) := do
  match ← s.request "GET" submission.objectPath none true with
  | none =>
      let document ← CommandM.orFault submission.document
      s.request "POST" submission.collectionPath (some document) false
  | some existing =>
      let document ← CommandM.orFault (submission.replacing existing)
      s.request "PUT" submission.objectPath (some document) false

/-- The declarations of a namespace, or of all; none if asking for them brings nothing. -/
def list (s : Session) (namespaceName : Option String) : CommandM (Option Json) := do
  match ← s.request "GET" (ResourceKind.simpleApp.path namespaceName none none) none false with
  | none => return none
  | some answer =>
      let items ← CommandM.orFault (answer.fieldOr "items" .null)
      return some (items.orElse (.arr []))

def delete (s : Session) (namespaceName name : String) : CommandM (Option Json) :=
  s.request "DELETE" (ResourceKind.simpleApp.path (some namespaceName) (some name) none) none false

end Session

end AppOperator.Command
