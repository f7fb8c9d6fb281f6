import AppOperator.Probe.Query
import AppOperator.Checked
import AppOperator.Controller

/-!
# Probes

The operator answers three paths over HTTP: whether it is alive, whether it is
ready, and what its last passes were.  It is ready when the controller is running
and, where a watcher is part of it, a list of every watched kind has been gone
through.
-/

set_option autoImplicit false

namespace AppOperator

structure ProbeRequest where
  method : String
  path : String
  query : String

/-- What is wrong with the limit on the number of records. -/
inductive LimitCause where
  | field (cause : FieldCause)
  | tooSmall
  | tooLarge
deriving DecidableEq, Repr

inductive ProbeAnswer where
  | alive
  | ready
  | notRunning
  | notSynced
  | records (records : List (PassRecord ObjectKey))
  | badLimit (cause : LimitCause) (given : String)
  /-- the same path without the slashes at its end is answered -/
  | moved
  | notFound
  | notAllowed

/-- What the probes know: the controller, and whether the watcher is in step, if there is one. -/
structure ProbeView where
  controller : Controller ObjectKey
  synced : Option Bool

namespace LimitCause

def fields : LimitCause → Fields
  | .field cause => [("type", .str cause.label), ("msg", .str cause.message)]
  | .tooSmall => [("type", .str "greater_than_equal"),
      ("msg", .str "Input should be greater than or equal to 1"),
      ("ctx", .obj [("ge", .int 1)])]
  | .tooLarge => [("type", .str "less_than_equal"),
      ("msg", .str "Input should be less than or equal to 1000"),
      ("ctx", .obj [("le", .int 1000)])]

end LimitCause

def PassRecord.toJson (r : PassRecord ObjectKey) : Json :=
  .obj [("namespace", r.key.namespaceName), ("name", r.key.name), ("success", .bool r.success),
    ("phase", .str r.phase.name), ("message", .str r.message), ("trigger", .str r.trigger.name),
    ("retry_count", .int r.retryCount),
    ("outcomes", .obj (r.outcomes.map fun outcome => (outcome.1, .str outcome.2.name)))]

namespace ProbeAnswer

def status : ProbeAnswer → Nat
  | .alive | .ready | .records _ => 200
  | .notRunning | .notSynced => 503
  | .badLimit .. => 422
  | .moved => 307
  | .notFound => 404
  | .notAllowed => 405

/-- An answer that names a reason for not being ready. -/
def notReady (reason : String) : Json :=
  .obj [("status", .str "not ready"), ("reason", .str reason)]

def body : ProbeAnswer → Json
  | .alive | .ready => .obj [("status", .str "ok")]
  | .notRunning => notReady "controller not running"
  | .notSynced => notReady "caches not synced"
  | .records last => .arr (last.map PassRecord.toJson)
  | .badLimit cause given =>
      .obj [("detail", .arr [.obj (cause.fields ++
        [("loc", .arr [.str "query", .str "limit"]), ("input", .str given)])])]
  | .moved => .null
  | .notFound => .obj [("detail", .str "Not Found")]
  | .notAllowed => .obj [("detail", .str "Method Not Allowed")]

end ProbeAnswer

/-- The number of records that a query asks for. -/
def recordLimit (query : String) : Except (LimitCause × String) Int :=
  match Query.value? query "limit" with
  | none => .ok 20
  | some given =>
      match Checked.wholeOfText given with
      | .error cause => .error (.field cause, given)
      | .ok limit =>
          if limit < 1 then .error (.tooSmall, given)
          else if 1000 < limit then .error (.tooLarge, given)
          else .ok limit

namespace ProbeView

def readiness (v : ProbeView) : ProbeAnswer :=
  if !v.controller.running then .notRunning
  else if v.synced = some false then .notSynced
  else .ready

/-- The last records, as many as the query asks for. -/
def history (v : ProbeView) (query : String) : ProbeAnswer :=
  match recordLimit query with
  | .ok limit => .records (v.controller.recent limit)
  | .error (cause, given) => .badLimit cause given

/-- What a path answers to reading it. -/
def page? (v : ProbeView) (query : String) : String → Option ProbeAnswer
  | "/healthz" => some .alive
  | "/readyz" => some v.readiness
  | "/api/v1/reconciliations" => some (v.history query)
  | _ => none

/-- Answers a request for a path that may be answered under another one. -/
def elsewhere (v : ProbeView) (request : ProbeRequest) : ProbeAnswer :=
  if request.path.toList.getLast? == some '/'
      && (v.page? request.query (Text.trimEnd '/' request.path)).isSome then .moved
  else .notFound

def answer (v : ProbeView) (request : ProbeRequest) : ProbeAnswer :=
  match v.page? request.query request.path with
  | none => v.elsewhere request
  | some page => if request.method == "GET" then page else .notAllowed

end ProbeView

end AppOperator
