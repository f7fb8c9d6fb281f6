import AppOperator.Proofs.Reconcile.Effects

/-!
# A pass that succeeds is a fixed point

After a pass that has succeeded another one finds every object as it wants it:
it only reads, and it reports that nothing was to be done.
-/

set_option autoImplicit false

namespace AppOperator

variable {s after : Store} {d : Declaration} {key : ObjectKey} {routeClass : Option String}
  {written : Bool} {live : Json} {report : PassReport}

/-- The calls only read. -/
def OnlyReads (calls : List ClientCall) : Prop :=
  ∀ call ∈ calls, call.operation.isMutating = false

theorem OnlyReads.append {first second : List ClientCall} (left : OnlyReads first)
    (right : OnlyReads second) : OnlyReads (first ++ second) := by
  intro call among
  rcases List.mem_append.1 among with inFirst | inSecond
  · exact left call inFirst
  · exact right call inSecond

theorem onlyReads_get (kind : ResourceKind) (namespaceName name : Json) :
    OnlyReads [.get kind namespaceName name] := by
  intro call among
  rw [List.mem_singleton] at among
  rw [among]
  rfl

/-- What is done about the route when there is nothing to do. -/
def Outcome.atRest (routeClass : Option String) : Outcome :=
  if routeClass.isSome then .unchanged else .skipped

/-- The outcomes of a pass that has nothing to do. -/
def restingOutcomes (routeClass : Option String) : Outcomes :=
  [(ResourceKind.deployment.name, .unchanged), (ResourceKind.service.name, .unchanged),
    (ResourceKind.ingress.name, .atRest routeClass)]

/-- A step whose object a pass has brought about finds nothing to do afterwards. -/
theorem Brought.run_again {step : EnsureStep} {aligned : Json → Bool} {outcome : Outcome}
    {object : Json} {later : Store} (brought : Brought step aligned s after outcome object)
    (lawful : step.Lawful aligned) (inOrder : after.InOrder) (failures : after.failures = s.failures)
    (same : SameCluster after later) :
    step.ensure.run Store.answer later = (.ok ⟨.unchanged, some object, []⟩, step.readIn later) ∧
      OnlyReads (step.ensure.queries Store.answer later) ∧
      SameCluster after (step.readIn later) := by
  have readable : later.failure? .get step.kind = none := by
    rw [Store.failure?_of_failures (same.failures.trans failures), brought.readable]
  have found : later.get? step.place = some object := by
    rw [Store.get?_of_objects same.objects, brought.stored]
  have ordered : later.InOrder := inOrder.of_objects same.objects
  refine ⟨EnsureStep.run_ensure_of_aligned lawful ordered readable found brought.aligned, ?_,
    same.record _ _ _ _⟩
  rw [EnsureStep.queries_ensure_of_aligned lawful ordered readable found brought.aligned]
  exact onlyReads_get _ _ _

/-- The same of the route, if there is one. -/
theorem RouteBrought.run_again {outcome : Outcome} {later : Store}
    (brought : RouteBrought d routeClass s after outcome) (inOrder : after.InOrder)
    (failures : after.failures = s.failures) (same : SameCluster after later) :
    ∃ route last, (d.ensureRoute routeClass).run Store.answer later = (.ok route, last) ∧
      route.outcome = .atRest routeClass ∧
      OnlyReads ((d.ensureRoute routeClass).queries Store.answer later) ∧
      SameCluster after last := by
  cases routeClass with
  | none =>
      refine ⟨⟨.skipped, none, []⟩, later, rfl, rfl, ?_, same⟩
      intro call among
      cases among
  | some name =>
      obtain ⟨object, brought⟩ := brought
      obtain ⟨ran, reads, still⟩ :=
        brought.run_again (d.routeStep_lawful name) inOrder failures same
      exact ⟨_, _, ran, rfl, reads, still⟩

/-- What a pass has brought about, the phases of another pass find as they want it. -/
theorem PassEffects.run_again {workload endpoint route : Outcome}
    (effects : PassEffects key d routeClass s after workload endpoint route written live)
    {later : Store} (same : SameCluster after later) :
    ∃ object other last, after.get? key.place = some object ∧
      Declaration.ofResource object = .ok other ∧
      (passFor other routeClass).run Store.answer later =
        (.ok (.succeeded (restingOutcomes routeClass) false), last) ∧
      OnlyReads ((passFor other routeClass).queries Store.answer later) ∧
      SameCluster after last := by
  obtain ⟨object, other, stored, parses, application, count, -⟩ := effects.declaration
  obtain ⟨sameWorkload, sameEndpoint, -⟩ := application.steps
  obtain ⟨offered, endpoint⟩ := effects.endpoint
  obtain ⟨first, firstReads, same₁⟩ := effects.workload.run_again d.workloadStep_lawful
    effects.inOrder effects.failures same
  obtain ⟨second, secondReads, same₂⟩ := endpoint.run_again d.endpointStep_lawful
    effects.inOrder effects.failures same₁
  obtain ⟨resting, last, third, outcome, thirdReads, same₃⟩ := effects.route.run_again
    effects.inOrder effects.failures same₂
  have fourth := run_reconcileStatus_of_equal effects.observed count.symm last
  have noQueries := queries_reconcileStatus_of_equal effects.observed count.symm last
  rw [← sameWorkload] at first firstReads second secondReads third thirdReads
  rw [← sameEndpoint] at second secondReads third thirdReads
  rw [← application.ensureRoute routeClass] at third thirdReads
  have phases : PassPhases other routeClass later _ _ _ _ _ _ _ _ :=
    ⟨first, second, third, fourth⟩
  refine ⟨object, other, last, stored, parses, ?_, ?_, same₃⟩
  · rw [run_passFor phases]
    simp only [PassReport.ofPhases, restingOutcomes, outcome]
  · rw [queries_passFor phases, noQueries, List.append_nil]
    exact firstReads.append (secondReads.append thirdReads)

/-- A pass that succeeds either found no declaration or has had all its effects. -/
theorem effects_of_success (inOrder : s.InOrder) (sound : ReadsSoundly routeClass s)
    (counts : ∀ object d live, s.get? key.place = some object →
      Declaration.ofResource object = .ok d → s.get? d.workloadStep.place = some live →
      CountsWhole live)
    (ran : (reconcile routeClass key).run Store.answer s = (.ok report, after))
    (success : report.success = true) :
    (((fetch key).run Store.answer s).1 = .ok none ∧ report = .absent ∧ after = readIn key s) ∨
      ∃ d workload endpoint route written live,
        ((fetch key).run Store.answer s).1 = .ok (some d) ∧
        s.failure? .get .simpleApp = none ∧ Store.usable key.place = .ok key.place ∧
        report = .ofPhases workload endpoint route written ∧
        PassEffects key d routeClass (readIn key s) after workload.outcome endpoint.outcome
          route.outcome written live := by
  rw [reconcile_eq] at ran
  obtain ⟨found, read, fetched, ran⟩ := goes_on_of_success success ran
  cases found with
  | none =>
      cases ran
      rw [← snd_run_fetch, fetched]
      exact .inl ⟨rfl, rfl, rfl⟩
  | some d =>
      obtain ⟨quiet, usable_, ⟨object, stored, parses⟩, rfl⟩ := fetch_eq_some fetched
      obtain ⟨workload, endpoint, route, written, s₁, s₂, s₃, phases, same⟩ :=
        phases_of_success ran success
      have begun : (readIn key s).InOrder := inOrder.of_objects rfl
      obtain ⟨live, effects⟩ := effects_of_phases begun sound stored parses
        (fun live => counts object d live stored parses) phases
      rw [fetched]
      exact .inr ⟨d, workload, endpoint, route, written, live, rfl, quiet, usable_, same, effects⟩

/-- A pass that succeeds leaves nothing to do for the next one with the same class: the
next pass only reads, succeeds, and reports that nothing was changed. -/
theorem successful_pass_is_a_fixed_point (reached : s.Reached)
    (sound : ReadsSoundly routeClass s)
    (counts : ∀ object d live, s.get? key.place = some object →
      Declaration.ofResource object = .ok d → s.get? d.workloadStep.place = some live →
      CountsWhole live)
    (ran : (reconcile routeClass key).run Store.answer s = (.ok report, after))
    (success : report.success = true) :
    ∃ again last, (reconcile routeClass key).run Store.answer after = (.ok again, last) ∧
      again.success = true ∧ again.statusUpdated = false ∧
      (((fetch key).run Store.answer s).1 = .ok none → again.outcomes = []) ∧
      (((fetch key).run Store.answer s).1 ≠ .ok none →
        again.outcomes = restingOutcomes routeClass) ∧
      OnlyReads ((reconcile routeClass key).queries Store.answer after) ∧
      last.objects = after.objects := by
  rcases effects_of_success reached.inOrder sound counts ran success with
    ⟨fetched, rfl, rfl⟩ |
    ⟨d, workload, endpoint, route, written, live, fetched, quiet, usable_, rfl, effects⟩
  · have again := fst_run_fetch_readIn key s
    rw [fetched] at again
    refine ⟨.absent, readIn key (readIn key s), ?_, rfl, rfl, fun _ => rfl, ?_, ?_, rfl⟩
    · rw [run_reconcile, again]
      rfl
    · intro present
      exact absurd fetched present
    · rw [queries_reconcile, again]
      exact onlyReads_get _ _ _
  · have same : SameCluster after (readIn key after) :=
      (SameCluster.refl after).record .get .simpleApp key.namespaceName key.name
    obtain ⟨object, other, last, stored, parses, ran, reads, still⟩ := effects.run_again same
    have quietAfter : after.failure? .get .simpleApp = none := by
      rw [Store.failure?_of_failures effects.failures]
      exact quiet
    have again := run_fetch_of_stored quietAfter usable_ stored parses
    refine ⟨.succeeded (restingOutcomes routeClass) false, last, ?_, rfl, rfl, ?_, fun _ => rfl, ?_,
      still.objects⟩
    · rw [run_reconcile, again]
      exact ran
    · intro absent
      rw [fetched] at absent
      cases absent
    · rw [queries_reconcile, again]
      exact (onlyReads_get _ _ _).append reads

/-- A first pass that changes all it can change, and the one after it. -/
theorem fixed_point_after_sample_pass : ∃ report after,
    (reconcile (some "nginx") sampleKey).run Store.answer sampleStore = (.ok report, after) ∧
      report.success = true ∧ report.statusUpdated = true ∧
      report.outcomes = [("Deployment", .updated), ("Service", .created), ("Ingress", .created)] ∧
      ∃ again last, (reconcile (some "nginx") sampleKey).run Store.answer after = (.ok again, last) ∧
        again.success = true ∧ again.statusUpdated = false ∧
        again.outcomes = [("Deployment", .unchanged), ("Service", .unchanged),
          ("Ingress", .unchanged)] ∧
        OnlyReads ((reconcile (some "nginx") sampleKey).queries Store.answer after) ∧
        last.objects = after.objects := by
  have ran : (reconcile (some "nginx") sampleKey).run Store.answer sampleStore =
      (.ok (.succeeded [("Deployment", .updated), ("Service", .created), ("Ingress", .created)] true),
        ((reconcile (some "nginx") sampleKey).run Store.answer sampleStore).2) :=
    Prod.ext (by rfl) rfl
  obtain ⟨again, last, next, success, still, -, outcomes, reads, objects⟩ :=
    successful_pass_is_a_fixed_point sampleStore_reached
      (by intro kind among fault arranged; cases arranged)
      (by
        intro object d live stored parses found count leads
        cases stored
        cases parses
        cases found
        cases leads
        exact .inr ⟨2, rfl⟩)
      ran rfl
  exact ⟨_, _, ran, rfl, rfl, rfl, again, last, next, success, still,
    outcomes (by intro impossible; cases impossible), reads, objects⟩

/-- A new declaration in a cluster that reports every workload missing. -/
def misledStore : Store :=
  (Store.empty.seed .simpleApp (NewDeclaration.render ⟨.str "web", .str "nginx:1", .int 8080,
    .int 1, .int 80, .str "default"⟩)).2.fail .get .deployment (.api (.missing "no such"))

/-- Where reads of workloads report them missing whatever is stored, a pass that has created
its workload is followed by one that fails to create it again. -/
theorem misled_pass_is_no_fixed_point : misledStore.Reached ∧
    misledStore.get? (.ofTexts .deployment "default" "web") = none ∧
    ∃ report after again last,
      (reconcile none sampleKey).run Store.answer misledStore = (.ok report, after) ∧
        report.success = true ∧
        (reconcile none sampleKey).run Store.answer after = (.ok again, last) ∧
        again.success = false ∧ again.failedPhase = some .ensureWorkload :=
  ⟨.failing (.seeded .empty _ _) _ _ _, rfl, _, _, _, _, rfl, rfl, rfl, rfl, rfl⟩

end AppOperator
