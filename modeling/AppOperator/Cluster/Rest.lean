import AppOperator.Cluster.Call
import AppOperator.Number.Binary64
import AppOperator.Watch.Stream

/-!
# The API over HTTP

Every call becomes one request to a path under the address of the server.  A
response with a status from 400 on is an error of the API; its body, if it is a
record, may give reason and message.  A request that did not get through is an
error of the API without a status.

A call is a dialogue with whoever carries requests.
-/

set_option autoImplicit false

namespace AppOperator

structure HttpRequest where
  method : String
  url : String
  body : Option Json

/-- A request for a stream; the last field is the longest silence in seconds. -/
structure StreamRequest where
  url : String
  parameters : List (String × String)
  silence : Int

/-- What keeps a request from being answered. -/
inductive TransportFault where
  /-- the connection or the response failed, in these words -/
  | connection (text : String)
  | timeout
  /-- anything else -/
  | other (fault : Fault)

structure HttpResponse where
  status : Int
  reason : Option String
  text : String

/-- A response with its body as a stream, and what broke the stream off. -/
structure StreamResponse where
  head : HttpResponse
  chunks : List (List UInt8)
  broken : Option TransportFault

abbrev HttpM (α : Type) := Dialogue HttpRequest (Except TransportFault HttpResponse) α

/-- The headers of a request: documents are wanted, and a token that is not empty
says who asks. -/
def requestHeaders (token : Option String) : List (String × String) :=
  ("Accept", "application/json") ::
    (match token.filter (· != "") with
    | some token => [("Authorization", "Bearer " ++ token)]
    | none => [])

structure RestClient where
  address : String
  token : Option String
  caFile : Option String
  verifySsl : Bool
  requestTimeout : Binary64
  connected : Bool
  /-- how often a connection has been closed -/
  closes : Nat

/-- What went wrong with a request, as an error of the API. -/
def TransportFault.fault (subject : String) : TransportFault → Fault
  | .connection text => .api (.general .null "ClientError" (subject ++ ": " ++ text))
  | .timeout => .api (.general .null "Timeout" (subject ++ " timed out"))
  | .other fault => fault

namespace HttpResponse

def isError (r : HttpResponse) : Bool :=
  400 ≤ r.status

def errorWith (r : HttpResponse) (reason message : Json) : Fault :=
  .api ⟨r.status = 404, .int r.status, reason, message⟩

def error (r : HttpResponse) : Fault :=
  let reason := Json.str (r.reason.getD "")
  let message := Json.str r.text
  match Json.parse r.text with
  | .error error => if error.isTooDeep then .tooDeep else r.errorWith reason message
  | .ok body =>
      let stated : Except Fault (Json × Json) := do
        return (← body.fieldOr "reason" reason, ← body.fieldOr "message" message)
      match stated with
      | .ok (reason, message) => r.errorWith reason message
      | .error fault => fault

/-- The document in the body; a blank body holds null. -/
def document (r : HttpResponse) : Reply :=
  let text := Text.trimEnds Text.isByteSpace r.text.toList
  if text.isEmpty then .ok .null
  else
    match Json.read text with
    | .ok x => .ok x
    | .error error => .error (.ofRead error text)

/-- The document, unless the response reports an error. -/
def reply (r : HttpResponse) : Reply :=
  if r.isError then .error r.error else r.document

end HttpResponse

namespace RestClient

/-- A client for an address, without slashes at its end. -/
def new (address : String) (token caFile : Option String) (verifySsl : Bool)
    (requestTimeout : Binary64) : RestClient where
  address := Text.trimEnd '/' address
  token := token
  caFile := caFile
  verifySsl := verifySsl
  requestTimeout := requestTimeout
  connected := false
  closes := 0

def headers (c : RestClient) : List (String × String) :=
  requestHeaders c.token

/-- Opens a connection.  A certificate file has to exist if it is to be used. -/
def connect (c : RestClient) (fileExists : String → Bool) : Except Fault RestClient :=
  match c.caFile.filter (· != "") with
  | some file =>
      if c.verifySsl && !fileExists file then .error .noFile else .ok { c with connected := true }
  | none => .ok { c with connected := true }

def close (c : RestClient) : RestClient :=
  if c.connected then { c with connected := false, closes := c.closes + 1 } else c

def notConnected : Fault :=
  .failure ("Kubernetes client not connected. " ++ "Call connect() before making requests.")

def request (c : RestClient) (method path : String) (body : Option Json) : HttpM Reply :=
  if !c.connected then .done (.error notConnected)
  else
    .ask ⟨method, c.address ++ path, body⟩ fun answer =>
      .done <|
        match answer with
        | .error failure => .error (failure.fault (method ++ " " ++ path))
        | .ok response => response.reply

/-- Sends a request to a path that is still to be found. -/
def requestAt (c : RestClient) (method : String) (path : Except Fault String)
    (body : Option Json) : HttpM Reply :=
  match path with
  | .error fault => .done (.error fault)
  | .ok path => c.request method path body

/-- The path of an object that states its own namespace and name. -/
def objectPath (kind : ResourceKind) (object : Json) (subresource : Option String) :
    Except Fault String := do
  let metadata ← object.entry "metadata"
  let namespaceName ← metadata.fieldOr "namespace" .null
  let name ← metadata.entry "name"
  return kind.path (ResourceKind.partOf namespaceName) (ResourceKind.partOf name) subresource

/-- The path of the collection that an object states to belong to. -/
def collectionPath (kind : ResourceKind) (object : Json) : Except Fault String := do
  let namespaceName ← (← object.entry "metadata").fieldOr "namespace" .null
  return kind.path (ResourceKind.partOf namespaceName) none none

def call (c : RestClient) : ClientCall → HttpM Reply
  | .get kind namespaceName name =>
      c.request "GET"
        (kind.path (ResourceKind.partOf namespaceName) (ResourceKind.partOf name) none) none
  | .create kind object => c.requestAt "POST" (collectionPath kind object) (some object)
  | .update kind object => c.requestAt "PUT" (objectPath kind object none) (some object)
  | .updateStatus kind object =>
      c.requestAt "PUT" (objectPath kind object (some "status")) (some object)
  | .delete kind namespaceName name => do
      let reply ← c.request "DELETE"
        (kind.path (ResourceKind.partOf namespaceName) (ResourceKind.partOf name) none) none
      return reply.map fun _ => .null

/-- The items and the version that the answer to a list states. -/
def listed (answer : Json) : Except Fault (Json × Json) := do
  let items := (← answer.fieldOr "items" .null).orElse (.arr [])
  let version ← (← answer.fieldOr "metadata" (.obj [])).fieldOr "resourceVersion" (.str "")
  return (items, version)

def list (c : RestClient) (kind : ResourceKind) (namespaceName : Option String) :
    HttpM (Except Fault (Json × Json)) := do
  let reply ← c.request "GET" (kind.path namespaceName none none) none
  return reply.bind listed

def watchRequest (c : RestClient) (kind : ResourceKind) (namespaceName version : Option String)
    (seconds : Int) : StreamRequest where
  url := c.address ++ kind.path namespaceName none none
  parameters := [("watch", "1"), ("allowWatchBookmarks", "true"),
      ("timeoutSeconds", Decimal.intText seconds)]
    ++ (ResourceKind.part version).toList.map fun version => ("resourceVersion", version)
  silence := seconds + 30

/-- The events that a watch delivers, and the fault that ends it. -/
def watched (kind : ResourceKind) (answer : Except TransportFault StreamResponse) :
    List WatchEvent × Option Fault :=
  let subject := "watch " ++ kind.plural
  match answer with
  | .error failure => ([], some (failure.fault subject))
  | .ok response =>
      if response.head.isError then ([], some response.head.error)
      else
        match LineReader.empty.read response.chunks with
        | (events, some fault) => (events, some fault)
        | (events, none) => (events, response.broken.map (·.fault subject))

/-- Opens a watch and reads it to its end. -/
def watch (c : RestClient) (kind : ResourceKind) (namespaceName version : Option String)
    (seconds : Int) :
    Dialogue StreamRequest (Except TransportFault StreamResponse)
      (List WatchEvent × Option Fault) :=
  if !c.connected then .done ([], some notConnected)
  else
    .ask (c.watchRequest kind namespaceName version seconds) fun answer =>
      .done (watched kind answer)

end RestClient

end AppOperator
