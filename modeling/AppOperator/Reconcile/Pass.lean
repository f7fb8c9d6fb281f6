import AppOperator.Reconcile.Step
import AppOperator.Cluster.Call

/-!
# Reconciliation passes

A pass fetches a declaration, ensures its workload, its endpoint and, when a
route class is in force, its route, and writes the number of ready replicas back
to the declaration.  It is a dialogue with the cluster.  The first fault ends
it: a refused call or a declaration that does not parse gives a report of a
failed pass, any other fault is the result of the pass itself.
-/

set_option autoImplicit false

namespace AppOperator

/-- What a step did to its object. -/
inductive Outcome where
  | created
  | updated
  | unchanged
  | skipped
deriving DecidableEq, Repr

def Outcome.name : Outcome → String
  | .created => "created"
  | .updated => "updated"
  | .unchanged => "unchanged"
  | .skipped => "skipped"

def Outcome.isMutation : Outcome → Bool
  | .created | .updated => true
  | .unchanged | .skipped => false

structure Ensured where
  outcome : Outcome
  object : Option Json
  changed : List String

/-- What a pass did, by kind of object. -/
abbrev Outcomes := List (String × Outcome)

structure PassReport where
  success : Bool
  phase : Phase
  message : String
  failedPhase : Option Phase
  outcomes : Outcomes
  statusUpdated : Bool
deriving DecidableEq, Repr

namespace PassReport

/-- The declaration does not exist, so there is nothing to do. -/
def absent : PassReport where
  success := true
  phase := .done
  message := "SimpleApp not found"
  failedPhase := none
  outcomes := []
  statusUpdated := false

/-- All phases went through. -/
def succeeded (outcomes : Outcomes) (statusUpdated : Bool) : PassReport where
  success := true
  phase := .done
  message := "Reconciliation successful"
  failedPhase := none
  outcomes := outcomes
  statusUpdated := statusUpdated

/-- A phase ended with a fault after the steps before it. -/
def failedIn (phase : Phase) (outcomes : Outcomes) (fault : Fault) : PassReport where
  success := false
  phase := .failed
  message := fault.message
  failedPhase := some phase
  outcomes := outcomes
  statusUpdated := false

def recordedPhase (r : PassReport) : Phase :=
  r.failedPhase.getD r.phase

end PassReport

/-- A pass that a fault ends: a report, if the fault is one that passes reckon with. -/
def stopPass (phase : Phase) (outcomes : Outcomes) (fault : Fault) : Except Fault PassReport :=
  if fault.endsPass then .ok (.failedIn phase outcomes fault) else .error fault

namespace EnsureStep

/-- The live object, or nothing when it does not exist. -/
def liveOf (reply : Reply) : Except Fault (Option Json) :=
  match reply with
  | .ok .null => .ok none
  | .ok live => .ok (some live)
  | .error fault => if fault.isNotFound then .ok none else .error fault

def createDesired (s : EnsureStep) : ClientM (Except Fault Ensured) :=
  .ask (.create s.kind s.desired) fun reply =>
    .done (reply.map fun created => ⟨.created, some (created.orElse s.desired), []⟩)

/-- Brings a live object in line, with a write only if one of the owned fields is wrong. -/
def align (s : EnsureStep) (live : Json) : ClientM (Except Fault Ensured) :=
  match s.diff live with
  | .error fault => .done (.error fault)
  | .ok [] => .done (.ok ⟨.unchanged, some live, []⟩)
  | .ok changed =>
      match s.applyDiff live with
      | ⟨_, some fault⟩ => .done (.error fault)
      | ⟨edited, none⟩ =>
          .ask (.update s.kind edited) fun reply =>
            .done (reply.map fun updated => ⟨.updated, some (updated.orElse edited), changed⟩)

/-- Reads the object and creates or aligns it. -/
def ensure (s : EnsureStep) : ClientM (Except Fault Ensured) :=
  .ask (.get s.kind (.str s.namespaceName) (.str s.objectName)) fun reply =>
    match liveOf reply with
    | .error fault => .done (.error fault)
    | .ok none => s.createDesired
    | .ok (some live) => s.align live

end EnsureStep

namespace Declaration

/-- Ensures the route under the class in force; without a class nothing is done. -/
def ensureRoute (d : Declaration) (routeClass : Option String) : ClientM (Except Fault Ensured) :=
  match routeClass with
  | none => .done (.ok ⟨.skipped, none, []⟩)
  | some name => (d.routeStep name).ensure

end Declaration

/-- Reads the declaration of a key, or nothing when it has been deleted. -/
def fetch (key : ObjectKey) : ClientM (Except Fault (Option Declaration)) :=
  .ask (.get .simpleApp key.namespaceName key.name) fun reply =>
    .done <|
      match reply with
      | .ok object => (Declaration.ofResource object).map some
      | .error fault => if fault.isNotFound then .ok none else .error fault

/-- The ready count that a workload reports, zero when it reports none. -/
def readyReplicas (workload : Option Json) : Except Fault Json :=
  match workload with
  | none => .ok (.int 0)
  | some workload =>
      if !workload.holds then .ok (.int 0)
      else do
        let status := (← workload.fieldOr "status" .null).orElse (.obj [])
        return (← status.fieldOr "readyReplicas" .null).orElse (.int 0)

/-- Writes the ready count of the workload to the declaration unless it is there
already; the result says whether something was written. -/
def reconcileStatus (d : Declaration) (workload : Option Json) : ClientM (Except Fault Bool) :=
  match readyReplicas workload with
  | .error fault => .done (.error fault)
  | .ok observed =>
      if observed.isNumber d.status.readyReplicas then .done (.ok false)
      else
        match d.withReadyReplicas observed with
        | .error fault => .done (.error fault)
        | .ok object =>
            .ask (.updateStatus .simpleApp object) fun reply => .done (reply.map fun _ => true)

/-- The phases of a pass after its declaration has been read. -/
def passFor (d : Declaration) (routeClass : Option String) :
    ClientM (Except Fault PassReport) := do
  match ← d.workloadStep.ensure with
  | .error fault => return stopPass .ensureWorkload [] fault
  | .ok workload =>
      let outcomes := [(ResourceKind.deployment.name, workload.outcome)]
      match ← d.endpointStep.ensure with
      | .error fault => return stopPass .ensureEndpoint outcomes fault
      | .ok endpoint =>
          let outcomes := outcomes ++ [(ResourceKind.service.name, endpoint.outcome)]
          match ← d.ensureRoute routeClass with
          | .error fault => return stopPass .ensureRoute outcomes fault
          | .ok route =>
              let outcomes := outcomes ++ [(ResourceKind.ingress.name, route.outcome)]
              match ← reconcileStatus d workload.object with
              | .error fault => return stopPass .reconcileStatus outcomes fault
              | .ok written => return .ok (.succeeded outcomes written)

/-- One pass for a key under the route class in force. -/
def reconcile (routeClass : Option String) (key : ObjectKey) :
    ClientM (Except Fault PassReport) := do
  match ← fetch key with
  | .error fault => return stopPass .fetch [] fault
  | .ok none => return .ok .absent
  | .ok (some d) => passFor d routeClass

end AppOperator
