import AppOperator.Desired

/-!
# Ensure steps

A step is responsible for one object of a declaration and for some of its
fields.  It knows the object it wants, tells which of its fields a live object
has wrong, and writes those fields into the live object.  A live object may have
any shape; what a step cannot find its way through is a fault.
-/

set_option autoImplicit false

namespace AppOperator

/-- The phases of a pass, in order, and its two ends. -/
inductive Phase where
  | fetch
  | ensureWorkload
  | ensureEndpoint
  | ensureRoute
  | reconcileStatus
  | done
  | failed
deriving DecidableEq, Repr

def Phase.name : Phase → String
  | .fetch => "fetch"
  | .ensureWorkload => "ensure_workload"
  | .ensureEndpoint => "ensure_endpoint"
  | .ensureRoute => "ensure_route"
  | .reconcileStatus => "reconcile_status"
  | .done => "done"
  | .failed => "failed"

def Phase.all : List Phase :=
  [.fetch, .ensureWorkload, .ensureEndpoint, .ensureRoute, .reconcileStatus, .done, .failed]

/-- A live object after an edit, with the fault that the edit stopped at.  What
was written before the fault stays written. -/
structure Edited where
  live : Json
  fault : Option Fault

namespace Edited

def start (live : Json) : Edited := ⟨live, none⟩

/-- One more write, unless an earlier one has failed. -/
def andThen (e : Edited) (write : Json → Except Fault Json) : Edited :=
  match e.fault with
  | some _ => e
  | none =>
      match write e.live with
      | .ok live => ⟨live, none⟩
      | .error fault => ⟨e.live, some fault⟩

end Edited

namespace Json

def assign (x : Json) (name : String) (value : Json) : Except Fault Json :=
  match x with
  | .obj fields => .ok (.obj (Fields.set fields name value))
  | other => .error (.noAssignment other.shape)

/-- Changes an entry of a record, which must be there. -/
def changeEntry (x : Json) (name : String) (change : Json → Except Fault Json) :
    Except Fault Json := do
  let changed ← change (← x.entry name)
  x.assign name changed

/-- Changes an entry of a record, which starts as an empty record if it is not there. -/
def changeEntryOrNew (x : Json) (name : String) (change : Json → Except Fault Json) :
    Except Fault Json :=
  match x with
  | .obj fields => do
      let changed ← change ((Fields.get? fields name).getD (.obj []))
      return .obj (Fields.set fields name changed)
  | other => .error (.noPart other.shape "setdefault")

/-- Changes the first item of a list. -/
def changeFirst (x : Json) (change : Json → Except Fault Json) : Except Fault Json := do
  let changed ← change (← x.first)
  match x with
  | .arr (_ :: rest) => return .arr (changed :: rest)
  | other => .error (.noAssignment other.shape)

end Json

/-- What is done about one object of a declaration. -/
structure EnsureStep where
  phase : Phase
  kind : ResourceKind
  namespaceName : String
  objectName : String
  desired : Json
  /-- the names of the owned fields that a live object has wrong -/
  diff : Json → Except Fault (List String)
  /-- writes the owned fields into a live object -/
  applyDiff : Json → Edited

/-- The name of a field that is wrong. -/
def changedIf (wrong : Bool) (name : String) : List String :=
  if wrong then [name] else []

/-- The section that holds what was asked of an object, empty if it is not there. -/
def specOf (live : Json) : Except Fault Json :=
  live.fieldOr "spec" (.obj [])

namespace WorkloadStep

def container (live : Json) : Except Fault Json := do
  let template ← (← specOf live).fieldOr "template" (.obj [])
  let instances ← template.fieldOr "spec" (.obj [])
  ((← instances.fieldOr "containers" .null).orElse (.arr [.obj []])).first

def diff (replicas : Int) (image : String) (live : Json) : Except Fault (List String) := do
  let liveReplicas ← (← specOf live).fieldOr "replicas" .null
  let liveImage ← (← container live).fieldOr "image" .null
  return changedIf (!liveReplicas.isNumber replicas) "replicas"
    ++ changedIf (!liveImage.isText image) "image"

def applyDiff (replicas : Int) (image : String) (live : Json) : Edited :=
  (Edited.start live
    |>.andThen fun live => live.changeEntry "spec" (·.assign "replicas" (.int replicas)))
    |>.andThen fun live =>
      live.changeEntry "spec" (·.changeEntry "template" (·.changeEntry "spec"
        (·.changeEntry "containers" (·.changeFirst (·.assign "image" (.str image))))))

end WorkloadStep

namespace EndpointStep

def port (live : Json) : Except Fault Json := do
  ((← (← specOf live).fieldOr "ports" .null).orElse (.arr [.obj []])).first

def diff (servicePort containerPort : Int) (live : Json) : Except Fault (List String) := do
  let livePort ← (← port live).fieldOr "port" .null
  let liveTarget ← (← port live).fieldOr "targetPort" .null
  return changedIf (!livePort.isNumber servicePort) "port"
    ++ changedIf (!liveTarget.isNumber containerPort) "targetPort"

def applyDiff (ports : Json) (live : Json) : Edited :=
  Edited.start live |>.andThen fun live => live.changeEntryOrNew "spec" (·.assign "ports" ports)

end EndpointStep

namespace RouteStep

def diff (routeClass : String) (live : Json) : Except Fault (List String) := do
  let liveClass ← (← specOf live).fieldOr "ingressClassName" .null
  return changedIf (!liveClass.isText routeClass) "ingressClassName"

def applyDiff (routeClass : String) (live : Json) : Edited :=
  Edited.start live |>.andThen fun live =>
    live.changeEntryOrNew "spec" (·.assign "ingressClassName" (.str routeClass))

end RouteStep

namespace Declaration

/-- Keeps the replicas and the image of the workload. -/
def workloadStep (d : Declaration) : EnsureStep where
  phase := .ensureWorkload
  kind := .deployment
  namespaceName := d.namespaceName
  objectName := d.name
  desired := d.workload
  diff := WorkloadStep.diff d.spec.replicas d.spec.image
  applyDiff := WorkloadStep.applyDiff d.spec.replicas d.spec.image

/-- Keeps the port mapping of the endpoint. -/
def endpointStep (d : Declaration) : EnsureStep where
  phase := .ensureEndpoint
  kind := .service
  namespaceName := d.namespaceName
  objectName := d.name
  desired := d.endpoint
  diff := EndpointStep.diff d.spec.servicePort d.spec.containerPort
  applyDiff := EndpointStep.applyDiff d.endpointPorts

/-- Keeps the class of the route. -/
def routeStep (d : Declaration) (routeClass : String) : EnsureStep where
  phase := .ensureRoute
  kind := .ingress
  namespaceName := d.namespaceName
  objectName := d.routeName
  desired := d.route routeClass
  diff := RouteStep.diff routeClass
  applyDiff := RouteStep.applyDiff routeClass

end Declaration

end AppOperator
