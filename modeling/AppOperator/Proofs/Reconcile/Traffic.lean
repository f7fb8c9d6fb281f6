import AppOperator.Proofs.Reconcile.Independence
import AppOperator.Proofs.Reconcile.Upkeep

/-!
# The way of a request

A request comes through the route of an application to its endpoint, and from there to the
instances of its workload.  The three objects are written at different times, and passes track
different fields of them: names and labels are those of the application throughout, the ports of
the endpoint follow the declaration, and the port that the route leads to is the one that was
declared when the route was created.
-/

set_option autoImplicit false

namespace AppOperator

open Store
open Declaration (mem_steps_iff)

namespace Json

/-- The entries of a list that a path leads to; there are none in anything else. -/
def itemsAt (x : Json) (path : List String) : List Json :=
  match x.dig? path with
  | some (.arr items) => items
  | _ => []

end Json

/-- The services that a route leads to. -/
def backends (route : Json) : List Json :=
  (route.itemsAt ["spec", "rules"]).flatMap fun rule =>
    (rule.itemsAt ["http", "paths"]).filterMap (·.dig? ["backend", "service"])

/-- The ports that an endpoint exposes. -/
def exposedPorts (endpoint : Json) : List Json :=
  (endpoint.itemsAt ["spec", "ports"]).filterMap (·.field? "port")

/-- Wherever a route leads, it leads to the endpoint, at one of the ports that it exposes. -/
def RouteReaches (route endpoint : Json) : Prop :=
  ∀ backend ∈ backends route, backend.field? "name" = endpoint.dig? ["metadata", "name"] ∧
    ∃ port ∈ exposedPorts endpoint, backend.dig? ["port", "number"] = some port

/-- The objects of an application as they depend on one another, with a route to a port. -/
structure Connected (d : Declaration) (routed : Int) (workload endpoint route : Json) : Prop where
  labels : workload.dig? ["spec", "template", "metadata", "labels"] = some d.selectorLabels
  governed : workload.dig? ["spec", "selector", "matchLabels"] = some d.selectorLabels
  selected : endpoint.dig? ["spec", "selector"] = some d.selectorLabels
  name : endpoint.dig? ["metadata", "name"] = some (.str d.name)
  ports : endpoint.dig? ["spec", "ports"] = some (.arr [.obj [("port", .int d.spec.servicePort),
    ("targetPort", .int d.spec.containerPort)]])
  backends : backends route = [.obj [("name", .str d.name), ("port", .obj [("number", .int routed)])]]

variable {s before after : Store} {d d₀ : Declaration} {step : EnsureStep}
  {routeClass : Option String} {namespaceName name : String} {workload endpoint route : Json}

/-- The route reaches the endpoint as long as it is the declared port that it leads to. -/
theorem Connected.reaches_iff {routed : Int} (connected : Connected d routed workload endpoint route) :
    RouteReaches route endpoint ↔ routed = d.spec.servicePort := by
  have exposed : exposedPorts endpoint = [.int d.spec.servicePort] := by
    rw [exposedPorts, Json.itemsAt, connected.ports]
    rfl
  have isName : (Json.obj [("name", .str d.name), ("port", .obj [("number", .int routed)])]).field?
      "name" = some (.str d.name) := rfl
  have isPort : (Json.obj [("name", .str d.name), ("port", .obj [("number", .int routed)])]).dig?
      ["port", "number"] = some (.int routed) := rfl
  simp only [RouteReaches, connected.backends, exposed, connected.name, List.mem_singleton,
    forall_eq, isName, isPort, true_and, exists_eq_left, Option.some.injEq, Json.int.injEq]

/-! ## Who wants the object at a place -/

theorem ObjectPlace.ofTexts_beq_iff {kind kind' : ResourceKind} {namespaceName' name' : String} :
    (ObjectPlace.ofTexts kind namespaceName name == .ofTexts kind' namespaceName' name') = true ↔
      kind.name = kind'.name ∧ namespaceName = namespaceName' ∧ name = name' := by
  simp only [ObjectPlace.beq_iff, ObjectPlace.ofTexts, Json.keyForm, Json.wholeNumber?,
    Json.str.injEq]

theorem step_at_workload (among : step ∈ d.steps routeClass)
    (here : (step.place == .ofTexts .deployment namespaceName name) = true) :
    step = d.workloadStep ∧ d.name = name := by
  obtain ⟨sameKind, -, sameName⟩ := ObjectPlace.ofTexts_beq_iff.1 here
  rcases mem_steps_iff.1 among with rfl | rfl | ⟨_, -, rfl⟩
  · exact ⟨rfl, sameName⟩
  · exact absurd sameKind (by decide : "Service" ≠ "Deployment")
  · exact absurd sameKind (by decide : "Ingress" ≠ "Deployment")

theorem step_at_endpoint (among : step ∈ d.steps routeClass)
    (here : (step.place == .ofTexts .service namespaceName name) = true) :
    step = d.endpointStep ∧ d.name = name := by
  obtain ⟨sameKind, -, sameName⟩ := ObjectPlace.ofTexts_beq_iff.1 here
  rcases mem_steps_iff.1 among with rfl | rfl | ⟨_, -, rfl⟩
  · exact absurd sameKind (by decide : "Deployment" ≠ "Service")
  · exact ⟨rfl, sameName⟩
  · exact absurd sameKind (by decide : "Ingress" ≠ "Service")

theorem step_at_route (among : step ∈ d.steps routeClass)
    (here : (step.place == .ofTexts .ingress namespaceName (name ++ "-ingress")) = true) :
    (∃ routeClass, step = d.routeStep routeClass) ∧ d.name = name := by
  obtain ⟨sameKind, -, sameName⟩ := ObjectPlace.ofTexts_beq_iff.1 here
  rcases mem_steps_iff.1 among with rfl | rfl | ⟨routeClass, -, rfl⟩
  · exact absurd sameKind (by decide : "Deployment" ≠ "Ingress")
  · exact absurd sameKind (by decide : "Service" ≠ "Ingress")
  · exact ⟨⟨routeClass, rfl⟩, (String.append_left_inj "-ingress").1 sameName⟩

/-! ## What a history leaves of the objects -/

def PlacesSpared (places : List ObjectPlace) (before after : Store) : Prop :=
  ∀ at_ ∈ places, after.get? at_ = before.get? at_

section History

variable {spares : Store → Store → Prop} {at_ : ObjectPlace} (since : Since spares s after)
  (inOrder : s.InOrder) (fresh : s.get? at_ = none)
  (spared : ∀ before after, spares before after → after.get? at_ = before.get? at_)
include since inOrder fresh spared

theorem workload_since (isWorkload : at_ = .ofTexts .deployment namespaceName name)
    (found : after.get? at_ = some workload) :
    workload.dig? ["spec", "template", "metadata", "labels"] =
        some (.obj [("app", .str name)]) ∧
      workload.dig? ["spec", "selector", "matchLabels"] = some (.obj [("app", .str name)]) := by
  subst isWorkload
  obtain ⟨_, _, _, step, -, -, -, among, here, upkept⟩ := exists_creation since inOrder
    (by decide : "Deployment" ≠ "SimpleApp") fresh spared found
  obtain ⟨rfl, rfl⟩ := step_at_workload among here
  exact ⟨upkept.beside _ (by decide), upkept.beside _ (by decide)⟩

theorem endpoint_since (isEndpoint : at_ = .ofTexts .service namespaceName name)
    (found : after.get? at_ = some endpoint) :
    endpoint.dig? ["spec", "selector"] = some (.obj [("app", .str name)]) ∧
      endpoint.dig? ["metadata", "name"] = some (.str name) ∧
      ∃ d : Declaration, endpoint.dig? ["spec", "ports"] = some d.endpointPorts := by
  subst isEndpoint
  obtain ⟨_, _, creator, step, -, -, -, among, here, upkept⟩ := exists_creation since inOrder
    (by decide : "Service" ≠ "SimpleApp") fresh spared found
  obtain ⟨rfl, rfl⟩ := step_at_endpoint among here
  refine ⟨upkept.beside _ (by decide), upkept.beside _ (by decide), ?_⟩
  rcases upkept.ports with same | written
  · exact ⟨creator, same⟩
  · exact written

/-- The rules of a route are those of the declaration that it was created for. -/
theorem route_since (isRoute : at_ = .ofTexts .ingress namespaceName (name ++ "-ingress"))
    (found : after.get? at_ = some route) :
    ∃ (middle : Store) (creator : RoutedPass) (d : Declaration), Since spares s middle ∧
      creator.Creates d at_ middle ∧ Since spares (creator.run middle).2 after ∧ d.name = name ∧
      route.dig? ["spec", "rules"] = some (.arr [d.routeRule]) := by
  subst isRoute
  obtain ⟨middle, creator, d, step, earlier, creates, later, among, here, upkept⟩ :=
    exists_creation since inOrder (by decide : "Ingress" ≠ "SimpleApp") fresh spared found
  obtain ⟨⟨routeClass, rfl⟩, rfl⟩ := step_at_route among here
  exact ⟨middle, creator, d, earlier, creates, later, rfl, upkept.beside _ (by decide)⟩

end History

/-! ## What the parts come to -/

/-- Ports that are those of a declaration and aligned with another are those of the other. -/
theorem ports_of_isAligned {servicePort containerPort : Int}
    (ports : endpoint.dig? ["spec", "ports"] = some d.endpointPorts)
    (isAligned : EndpointStep.isAligned servicePort containerPort endpoint = true) :
    d.spec.servicePort = servicePort ∧ d.spec.containerPort = containerPort := by
  have port : EndpointStep.port? endpoint = some (.obj [("port", .int d.spec.servicePort),
      ("targetPort", .int d.spec.containerPort)]) := by
    rw [EndpointStep.port?, ports]
    rfl
  simpa [EndpointStep.isAligned, port, Json.field?, Fields.get?, Json.isNumber_int_iff]
    using isAligned

theorem backends_of_rules (rules : route.dig? ["spec", "rules"] = some (.arr [d.routeRule])) :
    backends route = [.obj [("name", .str d.name),
      ("port", .obj [("number", .int d.spec.servicePort)])]] := by
  rw [backends, Json.itemsAt, rules]
  rfl

def Declaration.routePlace (d : Declaration) : ObjectPlace :=
  .ofTexts .ingress d.namespaceName (d.name ++ "-ingress")

/-- The dependents that are stored after a history are connected, by way of the port that was
declared when a pass created the route. -/
theorem connected_since (since : Since (PlacesSpared d.key.dependents) s after)
    (inOrder : s.InOrder) (fresh : ∀ at_ ∈ d.key.dependents, s.get? at_ = none)
    (isWorkload : after.get? (.ofTexts .deployment d.namespaceName d.name) = some workload)
    (isEndpoint : after.get? (.ofTexts .service d.namespaceName d.name) = some endpoint)
    (isRoute : after.get? d.routePlace = some route)
    (isAligned :
      EndpointStep.isAligned d.spec.servicePort d.spec.containerPort endpoint = true) :
    ∃ (middle : Store) (creator : RoutedPass) (d₀ : Declaration),
      Since (PlacesSpared d.key.dependents) s middle ∧ creator.Creates d₀ d.routePlace middle ∧
      Since (PlacesSpared d.key.dependents) (creator.run middle).2 after ∧
      Connected d d₀.spec.servicePort workload endpoint route := by
  have among : ∀ at_, at_ = .ofTexts .deployment d.namespaceName d.name ∨
      at_ = .ofTexts .service d.namespaceName d.name ∨ at_ = d.routePlace →
      at_ ∈ d.key.dependents := fun at_ one => mem_dependents_iff.2 ⟨_, _, rfl, one⟩
  have sparedAt : ∀ at_ ∈ d.key.dependents, ∀ before after,
      PlacesSpared d.key.dependents before after → after.get? at_ = before.get? at_ :=
    fun at_ one _ _ spared => spared at_ one
  have workloadIn := among _ (.inl rfl)
  have endpointIn := among _ (.inr (.inl rfl))
  have routeIn := among _ (.inr (.inr rfl))
  obtain ⟨labels, governed⟩ := workload_since since inOrder (fresh _ workloadIn)
    (sparedAt _ workloadIn) rfl isWorkload
  obtain ⟨selected, isNamed, d₁, ports⟩ := endpoint_since since inOrder (fresh _ endpointIn)
    (sparedAt _ endpointIn) rfl isEndpoint
  obtain ⟨middle, creator, d₀, earlier, creates, later, sameName, rules⟩ :=
    route_since since inOrder (fresh _ routeIn) (sparedAt _ routeIn) rfl isRoute
  obtain ⟨samePort, sameTarget⟩ := ports_of_isAligned ports isAligned
  exact ⟨middle, creator, d₀, earlier, creates, later, {
    labels := labels
    governed := governed
    selected := selected
    name := isNamed
    ports := by rw [ports, Declaration.endpointPorts, samePort, sameTarget]
    backends := by rw [backends_of_rules rules, sameName] }⟩

/-- Over passes with any class and any failures, and changes by others that spare the dependents
of an application: a pass that succeeds under a class leaves the endpoint with the declared ports
in front of the instances of the workload, and a route that leads to the endpoint at the port that
was declared when a pass created the route.  So the route reaches the endpoint exactly if that is
still the declared port. -/
theorem dependents_stay_connected {pass : RoutedPass} {declared : Json} {report : PassReport}
    {raw : String} (reached : s.Reached) (stored : before.get? pass.key.place = some declared)
    (parses : Declaration.ofResource declared = .ok d)
    (fresh : ∀ at_ ∈ d.key.dependents, s.get? at_ = none)
    (history : Since (PlacesSpared d.key.dependents) s before)
    (told : ∀ fault, (pass.start before).failure? .get .simpleApp = some fault →
      fault.isNotFound = false)
    (set : pass.source.value = some raw) (something : Text.trim raw ≠ "")
    (ran : (pass.run before).1 = .ok report) (success : report.success = true) :
    let after := (pass.run before).2
    ∃ workload endpoint route,
      after.get? (.ofTexts .deployment d.namespaceName d.name) = some workload ∧
      after.get? (.ofTexts .service d.namespaceName d.name) = some endpoint ∧
      after.get? d.routePlace = some route ∧
      ∃ (middle : Store) (creator : RoutedPass) (d₀ : Declaration),
        Since (PlacesSpared d.key.dependents) s middle ∧ creator.Creates d₀ d.routePlace middle ∧
        Since (PlacesSpared d.key.dependents) (creator.run middle).2 after ∧
        Connected d d₀.spec.servicePort workload endpoint route ∧
        (RouteReaches route endpoint ↔ d₀.spec.servicePort = d.spec.servicePort) := by
  intro after
  have inOrder := reached.inOrder
  obtain ⟨other, read, parses', ordered, passed⟩ :=
    pass.runs_phases (history.inOrder inOrder) stored told ran success
  cases parses.symm.trans parses'
  rw [resolve_of_value set something] at passed
  obtain ⟨workload, isWorkload, -⟩ := aligned_of_passFor ordered passed success
    (mem_steps_iff.2 (.inl rfl)) d.workloadStep_lawful
  obtain ⟨endpoint, isEndpoint, isAligned⟩ := aligned_of_passFor ordered passed success
    (mem_steps_iff.2 (.inr (.inl rfl))) d.endpointStep_lawful
  obtain ⟨route, isRoute, -⟩ := aligned_of_passFor ordered passed success
    (mem_steps_iff.2 (.inr (.inr ⟨_, rfl, rfl⟩))) (d.routeStep_lawful _)
  -- the objects are there, and their history tells the rest
  obtain ⟨middle, creator, d₀, earlier, creates, later, connected⟩ := connected_since
    (history.passed pass) inOrder fresh isWorkload isEndpoint isRoute isAligned
  exact ⟨workload, endpoint, route, isWorkload, isEndpoint, isRoute, middle, creator, d₀, earlier,
    creates, later, connected, connected.reaches_iff⟩

/-! ## Edits of a declaration -/

/-- An edit next to the metadata is one of the changes that a history may have, and spares what is
of another kind. -/
theorem Since.edited {places : List ObjectPlace} {at_ : ObjectPlace} {name : String}
    {rest : List Json} {value : Json} (earlier : Since (PlacesSpared places) s before)
    (inOrder : s.InOrder) (beside : "metadata" ≠ name) (owned : ∀ other ∈ places, other.kind ≠ at_.kind) :
    Since (PlacesSpared places) s (before.edit at_ (.str name :: rest) (some value)).2 := by
  refine .changed earlier ((earlier.inOrder inOrder).edit beside) ?_
  intro other among
  exact get?_edit_of_kind (owned other among)

/-- A declaration that nothing has been done about. -/
def declaredStore : Store :=
  (Store.empty.seed .simpleApp (NewDeclaration.render ⟨.str "web", .str "nginx:1", .int 8080,
    .int 1, .int 80, .str "default"⟩)).2

/-- A pass has created all dependents, and then the application is offered under another port. -/
def reofferedStore : Store :=
  (((routedPass "nginx").run declaredStore).2.edit sampleKey.place
    [.str "spec", .str "servicePort"] (some (.int 81))).2

theorem declaredStore_reached : declaredStore.Reached := .seeded .empty _ _

theorem declaredStore_fresh : ∀ at_ ∈ sampleKey.dependents, declaredStore.get? at_ = none := by
  simp only [ObjectKey.dependents, sampleKey, ObjectKey.ofTexts, List.forall_mem_cons]
  exact ⟨rfl, rfl, rfl, List.forall_mem_nil _⟩

theorem reofferedStore_since :
    Since (PlacesSpared sampleKey.dependents) declaredStore reofferedStore :=
  Since.edited (.passed .start _) declaredStore_reached.inOrder (by decide)
    fun _ => kind_of_dependents

theorem reofferedStore_declares : ∃ declared d, reofferedStore.get? sampleKey.place = some declared ∧
    Declaration.ofResource declared = .ok d ∧ d.key = sampleKey ∧ d.spec.servicePort = 81 := by
  have declares : (reofferedStore.get? sampleKey.place).any (fun declared =>
      (Declaration.ofResource declared).toOption.any fun d =>
        d.namespaceName == "default" && d.name == "web" && d.spec.servicePort == 81) = true := by
    decide +kernel
  obtain ⟨declared, stored, declares⟩ := (Option.any_eq_true ..).1 declares
  cases parses : Declaration.ofResource declared with
  | error fault =>
      rw [parses] at declares
      cases declares
  | ok d =>
      simp only [parses, Except.toOption, Option.any_some, Bool.and_eq_true, beq_iff_eq] at declares
      obtain ⟨⟨inNamespace, isNamed⟩, reoffered⟩ := declares
      refine ⟨declared, d, stored, parses, ?_, reoffered⟩
      rw [Declaration.key, inNamespace, isNamed]
      rfl

theorem reofferedStore_passes : ∃ report,
    ((routedPass "nginx").run reofferedStore).1 = .ok report ∧ report.success = true := by
  have passes : ((routedPass "nginx").run reofferedStore).1.toOption.any (·.success) = true := by
    decide +kernel
  cases ran : ((routedPass "nginx").run reofferedStore).1 with
  | error fault =>
      rw [ran] at passes
      cases passes
  | ok report =>
      rw [ran] at passes
      exact ⟨report, rfl, passes⟩

theorem reoffered_sample_stays_connected :
    ∃ (declared : Json) (d d₀ : Declaration) (workload endpoint route : Json),
      reofferedStore.get? sampleKey.place = some declared ∧
        Declaration.ofResource declared = .ok d ∧ d.spec.servicePort = 81 ∧
        Connected d d₀.spec.servicePort workload endpoint route ∧
        (RouteReaches route endpoint ↔ d₀.spec.servicePort = 81) := by
  obtain ⟨declared, d, stored, parses, isKey, reoffered⟩ := reofferedStore_declares
  obtain ⟨report, ran, success⟩ := reofferedStore_passes
  have trimmed : Text.trim "nginx" = "nginx" := by decide +kernel
  have told : ∀ fault, ((routedPass "nginx").start reofferedStore).failure? .get .simpleApp =
      some fault → fault.isNotFound = false := by
    intro fault arranged
    rw [failure?_of_quiet rfl] at arranged
    cases arranged
  have fresh := declaredStore_fresh
  have history := reofferedStore_since
  rw [← isKey] at fresh history
  obtain ⟨workload, endpoint, route, -, -, -, _, _, d₀, -, -, -, connected, reaches⟩ :=
    dependents_stay_connected declaredStore_reached stored parses fresh history
      told rfl (by rw [trimmed]; decide) ran success
  rw [reoffered] at reaches
  exact ⟨declared, d, d₀, workload, endpoint, route, stored, parses, reoffered, connected, reaches⟩

/-- The route leads to the port that was declared before, which the endpoint does not expose any
more, although the pass after the edit has succeeded. -/
theorem reoffered_route_misses_the_endpoint : ∃ declared d report endpoint route,
    declaredStore.Reached ∧ (∀ at_ ∈ sampleKey.dependents, declaredStore.get? at_ = none) ∧
      Since (PlacesSpared sampleKey.dependents) declaredStore reofferedStore ∧
      reofferedStore.get? sampleKey.place = some declared ∧
      Declaration.ofResource declared = .ok d ∧ d.key = sampleKey ∧
      (routedPass "nginx").failures = [] ∧ (routedPass "nginx").source.value = some "nginx" ∧
      ((routedPass "nginx").run reofferedStore).1 = .ok report ∧ report.success = true ∧
      ((routedPass "nginx").run reofferedStore).2.get? (.ofTexts .service "default" "web") =
        some endpoint ∧
      ((routedPass "nginx").run reofferedStore).2.get? (.ofTexts .ingress "default" "web-ingress") =
        some route ∧
      ¬ RouteReaches route endpoint := by
  obtain ⟨declared, d, stored, parses, isKey, -⟩ := reofferedStore_declares
  obtain ⟨report, ran, success⟩ := reofferedStore_passes
  have exposes : (((routedPass "nginx").run reofferedStore).2.get?
      (.ofTexts .service "default" "web")).map exposedPorts = some [.int 81] := by
    decide +kernel
  have leads : (((routedPass "nginx").run reofferedStore).2.get?
      (.ofTexts .ingress "default" "web-ingress")).map backends =
        some [.obj [("name", .str "web"), ("port", .obj [("number", .int 80)])]] := by
    decide +kernel
  obtain ⟨endpoint, isEndpoint, exposed⟩ := Option.map_eq_some_iff.1 exposes
  obtain ⟨route, isRoute, backend⟩ := Option.map_eq_some_iff.1 leads
  refine ⟨declared, d, report, endpoint, route, declaredStore_reached, declaredStore_fresh, reofferedStore_since,
    stored, parses, isKey, rfl, rfl, ran, success, isEndpoint, isRoute, fun reaches => ?_⟩
  obtain ⟨-, port, among, isPort⟩ := reaches _ (backend ▸ List.mem_singleton_self _)
  rw [exposed, List.mem_singleton] at among
  subst among
  revert isPort
  decide

end AppOperator
