import AppOperator.Proofs.Reconcile.Phases

/-!
# What a pass brings about

The objects that a pass is about are kept at different places, so that what one
phase has done stays as it is until the pass is over.  `PassEffects` says what
the phases together have done to the store that the pass was started in.
-/

set_option autoImplicit false

namespace AppOperator

/-- A store with the objects and failures of another. -/
structure SameCluster (s other : Store) : Prop where
  objects : other.objects = s.objects
  failures : other.failures = s.failures

namespace SameCluster

variable {s other : Store}

theorem refl (s : Store) : SameCluster s s := ⟨rfl, rfl⟩

theorem record (same : SameCluster s other) (operation : Operation) (kind : ResourceKind)
    (namespaceName subject : Json) :
    SameCluster s (other.record operation kind namespaceName subject) :=
  ⟨same.objects, same.failures⟩

end SameCluster

/-- What a pass has done about the object of a step. -/
structure Brought (step : EnsureStep) (aligned : Json → Bool) (s after : Store) (outcome : Outcome)
    (object : Json) : Prop where
  outcome : outcome = .expected aligned (s.get? step.place)
  stored : after.get? step.place = some object
  aligned : aligned object = true
  kept : ∀ name, name ≠ "spec" → name ≠ "metadata" →
    object.field? name = ((s.get? step.place).getD step.desired).field? name
  readable : s.failure? .get step.kind = none

/-- A step leaves objects of other kinds alone. -/
theorem EnsureStep.Ensures.get?_of_kind {step : EnsureStep} {aligned : Json → Bool} {s after : Store}
    {result : Ensured} {object : Json} (ensures : step.Ensures aligned s result object after)
    {at_ : ObjectPlace} (other : at_.kind ≠ step.kind.name) : after.get? at_ = s.get? at_ :=
  ensures.elsewhere at_ (ObjectPlace.beq_false_of_kind (Ne.symm other))

theorem Mirrored.get?_of_kind {key : ObjectKey} {d : Declaration} {count : Int} {s after : Store}
    {written : Bool} (mirrored : Mirrored key d count s written after) {at_ : ObjectPlace}
    (other : at_.kind ≠ ResourceKind.simpleApp.name) : after.get? at_ = s.get? at_ :=
  mirrored.elsewhere at_ (ObjectPlace.beq_false_of_kind (Ne.symm other))

/-- What a step has done outlasts phases that are about other places. -/
theorem EnsureStep.Ensures.brought {step : EnsureStep} {aligned : Json → Bool}
    {first s middle after : Store} {result : Ensured} {object : Json}
    (ensures : step.Ensures aligned s result object middle)
    (before : s.get? step.place = first.get? step.place) (failures : s.failures = first.failures)
    (later : after.get? step.place = middle.get? step.place) :
    Brought step aligned first after result.outcome object where
  outcome := by rw [ensures.outcome, before]
  stored := by rw [later, ensures.stored]
  aligned := ensures.aligned
  kept := by
    rw [← before]
    exact ensures.kept
  readable := by
    rw [← Store.failure?_of_failures failures]
    exact ensures.readable

/-- The objects that a declaration owns. -/
def Declaration.workloadAligned (d : Declaration) : Json → Bool :=
  WorkloadStep.isAligned d.spec.replicas d.spec.image

def Declaration.endpointAligned (d : Declaration) : Json → Bool :=
  EndpointStep.isAligned d.spec.servicePort d.spec.containerPort

/-- What a pass has done about the route: nothing without a class. -/
def RouteBrought (d : Declaration) (routeClass : Option String) (s after : Store)
    (outcome : Outcome) : Prop :=
  match routeClass with
  | none => outcome = .skipped
  | some name => ∃ object,
      Brought (d.routeStep name) (RouteStep.isAligned name) s after outcome object

/-- What the phases of a pass together have done. -/
structure PassEffects (key : ObjectKey) (d : Declaration) (routeClass : Option String)
    (s after : Store) (workload endpoint route : Outcome) (written : Bool) (live : Json) : Prop where
  workload : Brought d.workloadStep d.workloadAligned s after workload live
  endpoint : ∃ object, Brought d.endpointStep d.endpointAligned s after endpoint object
  route : RouteBrought d routeClass s after route
  observed : readyReplicas (some live) = .ok (.int (reportedCount live))
  declaration : ∃ object other, after.get? key.place = some object ∧
    Declaration.ofResource object = .ok other ∧ SameApplication d other ∧
    other.status.readyReplicas = reportedCount live ∧
    (written = true → object.dig? ["status", "readyReplicas"] = some (.int (reportedCount live)))
  untouched : written = false → after.get? key.place = s.get? key.place
  failures : after.failures = s.failures
  inOrder : after.InOrder

variable {s after : Store} {d : Declaration} {key : ObjectKey} {object : Json}
  {routeClass : Option String} {written : Bool}

/-- The kinds that a pass ensures. -/
def ensuredKinds (routeClass : Option String) : List ResourceKind :=
  [.deployment, .service] ++ routeClass.toList.map fun _ => .ingress

/-- No not-found failure is arranged for reading the objects that a pass ensures. -/
def ReadsSoundly (routeClass : Option String) (s : Store) : Prop :=
  ∀ kind ∈ ensuredKinds routeClass, ∀ fault,
    s.failure? .get kind = some fault → fault.isNotFound = false

theorem ReadsSoundly.of_failures {other : Store} (sound : ReadsSoundly routeClass s)
    (same : other.failures = s.failures) : ReadsSoundly routeClass other := by
  intro kind among fault arranged
  rw [Store.failure?_of_failures same] at arranged
  exact sound kind among fault arranged

/-- A workload that has been ensured has the status that it had, or none when it is new. -/
theorem status_of_ensures {result : Ensured} {live : Json}
    (ensures : d.workloadStep.Ensures d.workloadAligned s result live after) :
    live.field? "status" = none ∨ ∃ old, s.get? d.workloadStep.place = some old ∧
      live.field? "status" = old.field? "status" := by
  have kept := ensures.kept "status" (by decide) (by decide)
  cases found : s.get? d.workloadStep.place with
  | none =>
      rw [found, Option.getD_none] at kept
      exact .inl kept
  | some old =>
      rw [found, Option.getD_some] at kept
      exact .inr ⟨old, rfl, kept⟩

theorem countsWhole_of_ensures {result : Ensured} {live : Json}
    (ensures : d.workloadStep.Ensures d.workloadAligned s result live after)
    (counts : ∀ old, s.get? d.workloadStep.place = some old → CountsWhole old) :
    CountsWhole live := by
  intro count leads
  rcases status_of_ensures ensures with nothing | ⟨old, found, kept⟩
  · simp only [Json.dig?, nothing, Option.bind_none, reduceCtorEq] at leads
  · refine counts old found count ?_
    simp only [Json.dig?] at leads ⊢
    rw [← kept, leads]

/-- What the route phase has done: nothing without a class. -/
def RouteEnsures (d : Declaration) (routeClass : Option String) (s : Store) (route : Ensured)
    (after : Store) : Prop :=
  match routeClass with
  | none => route.outcome = .skipped ∧ after = s
  | some name => ∃ object,
      (d.routeStep name).Ensures (RouteStep.isAligned name) s route object after

theorem routeEnsures_of_run {route : Ensured} (inOrder : s.InOrder)
    (sound : ReadsSoundly routeClass s)
    (ran : (d.ensureRoute routeClass).run Store.answer s = (.ok route, after)) :
    RouteEnsures d routeClass s route after := by
  cases routeClass with
  | none =>
      cases ran
      exact ⟨rfl, rfl⟩
  | some name =>
      exact EnsureStep.ensures_of_run (d.routeStep_lawful name) inOrder
        (sound .ingress (by simp [ensuredKinds])) ran

namespace RouteEnsures

variable {route : Ensured}

theorem get?_of_kind (ensures : RouteEnsures d routeClass s route after) {at_ : ObjectPlace}
    (other : at_.kind ≠ ResourceKind.ingress.name) : after.get? at_ = s.get? at_ := by
  cases routeClass with
  | none => rw [ensures.2]
  | some name =>
      obtain ⟨object, ensures⟩ := ensures
      exact ensures.get?_of_kind other

theorem failures (ensures : RouteEnsures d routeClass s route after) :
    after.failures = s.failures := by
  cases routeClass with
  | none => rw [ensures.2]
  | some name =>
      obtain ⟨object, ensures⟩ := ensures
      exact ensures.failures

theorem inOrder (ensures : RouteEnsures d routeClass s route after) (inOrder : s.InOrder) :
    after.InOrder := by
  cases routeClass with
  | none => exact inOrder.of_objects (congrArg Store.objects ensures.2)
  | some name =>
      obtain ⟨object, ensures⟩ := ensures
      exact ensures.inOrder

theorem brought {first last : Store} (ensures : RouteEnsures d routeClass s route after)
    (before : ∀ at_, at_.kind = ResourceKind.ingress.name → s.get? at_ = first.get? at_)
    (failures : s.failures = first.failures)
    (later : ∀ at_, at_.kind = ResourceKind.ingress.name → last.get? at_ = after.get? at_) :
    RouteBrought d routeClass first last route.outcome := by
  cases routeClass with
  | none => exact ensures.1
  | some name =>
      obtain ⟨object, ensures⟩ := ensures
      exact ⟨object, ensures.brought (before _ rfl) failures (later _ rfl)⟩

end RouteEnsures

/-- What the steps of a pass have done, each in the store that the one before has left. -/
structure StepsDone (d : Declaration) (routeClass : Option String) (s s₁ s₂ s₃ : Store)
    (workload endpoint route : Ensured) (live offered : Json) : Prop where
  workload : d.workloadStep.Ensures d.workloadAligned s workload live s₁
  endpoint : d.endpointStep.Ensures d.endpointAligned s₁ endpoint offered s₂
  route : RouteEnsures d routeClass s₂ route s₃

namespace StepsDone

variable {s₁ s₂ s₃ : Store} {workload endpoint route : Ensured} {live offered : Json}

theorem declaration_kept
    (steps : StepsDone d routeClass s s₁ s₂ s₃ workload endpoint route live offered)
    (key : ObjectKey) : s₃.get? key.place = s.get? key.place := by
  rw [steps.route.get?_of_kind (by decide : "SimpleApp" ≠ "Ingress"),
    steps.endpoint.get?_of_kind (by decide : "SimpleApp" ≠ "Service"),
    steps.workload.get?_of_kind (by decide : "SimpleApp" ≠ "Deployment")]

theorem failures
    (steps : StepsDone d routeClass s s₁ s₂ s₃ workload endpoint route live offered) :
    s₃.failures = s.failures :=
  steps.route.failures.trans (steps.endpoint.failures.trans steps.workload.failures)

theorem inOrder
    (steps : StepsDone d routeClass s s₁ s₂ s₃ workload endpoint route live offered) :
    s₃.InOrder :=
  steps.route.inOrder steps.endpoint.inOrder

/-- A count that is read off the workload is the one that it reports. -/
theorem observed {count : Json}
    (steps : StepsDone d routeClass s s₁ s₂ s₃ workload endpoint route live offered)
    (counts : ∀ old, s.get? d.workloadStep.place = some old → CountsWhole old)
    (read : readyReplicas workload.object = .ok count) :
    readyReplicas workload.object = .ok (.int (reportedCount live)) := by
  have whole := countsWhole_of_ensures steps.workload counts
  obtain ⟨fields, rfl⟩ := (steps.workload.inOrder _ _ steps.workload.stored).isRecord
  rw [steps.workload.reported] at read ⊢
  rw [read, eq_reportedCount whole read]

end StepsDone

variable {workload endpoint route : Ensured} {s₁ s₂ s₃ : Store}

theorem steps_of_phases (inOrder : s.InOrder) (sound : ReadsSoundly routeClass s)
    (phases : PassPhases d routeClass s workload endpoint route written s₁ s₂ s₃ after) :
    ∃ live offered, StepsDone d routeClass s s₁ s₂ s₃ workload endpoint route live offered := by
  obtain ⟨live, first⟩ := EnsureStep.ensures_of_run d.workloadStep_lawful inOrder
    (sound .deployment (by simp [ensuredKinds])) phases.ensureWorkload
  have sound₁ := sound.of_failures first.failures
  obtain ⟨offered, second⟩ := EnsureStep.ensures_of_run d.endpointStep_lawful first.inOrder
    (sound₁ .service (by simp [ensuredKinds])) phases.ensureEndpoint
  have third := routeEnsures_of_run second.inOrder (sound₁.of_failures second.failures)
    phases.ensureRoute
  exact ⟨live, offered, first, second, third⟩

/-- What a pass has done when all of its phases have gone through. -/
theorem effects_of_phases (inOrder : s.InOrder) (sound : ReadsSoundly routeClass s)
    (stored : s.get? key.place = some object) (parses : Declaration.ofResource object = .ok d)
    (counts : ∀ live, s.get? d.workloadStep.place = some live → CountsWhole live)
    (phases : PassPhases d routeClass s workload endpoint route written s₁ s₂ s₃ after) :
    ∃ live, PassEffects key d routeClass s after workload.outcome endpoint.outcome route.outcome
      written live := by
  obtain ⟨live, offered, steps⟩ := steps_of_phases inOrder sound phases
  obtain ⟨count, read⟩ := exists_observed phases.reconcileStatus
  have observed := steps.observed counts read
  -- the declaration is where it was when the status phase begins
  have stored₃ : s₃.get? key.place = some object := by
    rw [steps.declaration_kept, stored]
  have mirrored := mirrored_of_run steps.inOrder stored₃ parses observed phases.reconcileStatus
  exact ⟨live, {
    workload := by
      refine steps.workload.brought rfl rfl ?_
      rw [mirrored.get?_of_kind (by decide : "Deployment" ≠ "SimpleApp"),
        steps.route.get?_of_kind (by decide : "Deployment" ≠ "Ingress"),
        steps.endpoint.get?_of_kind (by decide : "Deployment" ≠ "Service")]
    endpoint := by
      refine ⟨offered, steps.endpoint.brought ?_ steps.workload.failures ?_⟩
      · rw [steps.workload.get?_of_kind (by decide : "Service" ≠ "Deployment")]
      · rw [mirrored.get?_of_kind (by decide : "Service" ≠ "SimpleApp"),
          steps.route.get?_of_kind (by decide : "Service" ≠ "Ingress")]
    route := by
      refine steps.route.brought ?_ (steps.endpoint.failures.trans steps.workload.failures) ?_
      · intro at_ isIngress
        have notService : at_.kind ≠ "Service" := by rw [isIngress]; decide
        have notDeployment : at_.kind ≠ "Deployment" := by rw [isIngress]; decide
        rw [steps.endpoint.get?_of_kind notService, steps.workload.get?_of_kind notDeployment]
      · intro at_ isIngress
        exact mirrored.get?_of_kind (by rw [isIngress]; decide)
    observed := by
      rw [← steps.workload.reported]
      exact observed
    declaration := mirrored.declaration
    untouched := by
      intro notWritten
      rw [mirrored.untouched notWritten, stored₃, stored]
    failures := mirrored.failures.trans steps.failures
    inOrder := mirrored.inOrder }⟩

/-! ## A store to look at -/

def sampleKey : ObjectKey := .ofTexts "default" "web"

/-- A declaration whose workload runs another image with other replicas, two of them ready. -/
def sampleStore : Store :=
  ((Store.empty.seed .simpleApp
      (NewDeclaration.render ⟨.str "web", .str "nginx:2", .int 8080, .int 1, .int 80,
        .str "default"⟩)).2.seed .deployment
    (.obj [("metadata", .obj [("name", .str "web")]),
      ("spec", .obj [("replicas", .int 3), ("template", .obj [("spec", .obj [("containers",
        .arr [.obj [("name", .str "app"), ("image", .str "nginx:1")]])])])]),
      ("status", .obj [("readyReplicas", .int 2)])])).2

theorem sampleStore_reached : sampleStore.Reached :=
  .seeded (.seeded .empty _ _) _ _

end AppOperator
