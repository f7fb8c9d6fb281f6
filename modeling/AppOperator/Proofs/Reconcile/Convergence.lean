import AppOperator.Proofs.Cluster.Failures
import AppOperator.Proofs.Reconcile.Effects
import AppOperator.RouteClass

/-!
# A pass converges

Where the objects of a declaration can be compared and edited and no call fails,
a pass goes through, and afterwards the objects are as the declaration wants
them.  The failures that are arranged for other calls play no part, so the pass
is followed in the store without failures.
-/

set_option autoImplicit false

namespace AppOperator

variable {s after : Store} {d : Declaration} {key : ObjectKey} {object : Json}
  {routeClass : Option String} {written : Bool} {live : Json}

/-- The stored objects of a declaration can be compared and edited. -/
structure WellFormed (d : Declaration) (routeClass : Option String) (s : Store) : Prop where
  containers : ∀ live, s.get? d.workloadStep.place = some live → WorkloadStep.HasContainers live
  status : ∀ live, s.get? d.workloadStep.place = some live → HasStatus live
  counts : ∀ live, s.get? d.workloadStep.place = some live → CountsWhole live
  ports : ∀ live, s.get? d.endpointStep.place = some live → EndpointStep.HasPorts live
  section_ : ∀ name live, routeClass = some name → s.get? (d.routeStep name).place = some live →
    RouteStep.HasSection live

/-! ## What the key and the status of a declaration say -/

/-- The name of a key is that of its declaration, and so is its namespace, the default one
where the key has none. -/
theorem key_of_stored (kept : Store.KeptAt key.place object)
    (parses : Declaration.ofResource object = .ok d) : key.name = .str d.name ∧
      key.namespaceName.orElse (.str defaultNamespace) = .str d.namespaceName := by
  obtain ⟨fields, metadata, rfl, has, names⟩ := kept.states
  have reads := (Declaration.ofResource_eq_ok_iff has).1 parses
  obtain ⟨name, named, agrees⟩ := names.name
  rw [reads.name] at named
  cases named
  refine ⟨(Json.keyForm_eq_str_iff d.name).1 agrees.symm, ?_⟩
  have sameNamespace := names.namespaceName
  have inNamespace := reads.namespaceName
  cases stated : Fields.get? metadata "namespace" with
  | none =>
      rw [stated, Option.getD_none] at sameNamespace inNamespace
      have isDefault : key.namespaceName = .str "default" :=
        (Json.keyForm_eq_str_iff "default").1 sameNamespace.symm
      rw [isDefault]
      exact inNamespace
  | some value =>
      rw [stated, Option.getD_some] at sameNamespace inNamespace
      have alike : key.namespaceName.holds = value.holds := by
        rw [← Json.holds_keyForm, ← Json.holds_keyForm value, sameNamespace]
        rfl
      cases holds : value.holds with
      | true =>
          rw [orElse_of_holds holds] at inNamespace
          rw [inNamespace] at sameNamespace
          have isText : key.namespaceName = .str d.namespaceName :=
            (Json.keyForm_eq_str_iff _).1 sameNamespace.symm
          rw [orElse_of_holds (alike.trans holds), isText]
      | false =>
          rw [orElse_of_not_holds holds] at inNamespace
          rw [orElse_of_not_holds (alike.trans holds), inNamespace]

/-- The status says its ready count as a whole number under its usual name, or not at all. -/
def CountsPlainly (object : Json) : Prop :=
  (∃ n, object.dig? ["status", "readyReplicas"] = some (.int n)) ∨
    (object.dig? ["status", "readyReplicas"] = none ∧
      object.dig? ["status", "ready_replicas"] = none)

/-- A ready count that is said plainly is read as it stands. -/
theorem readyReplicas_of_plain (kept : Store.KeptAt key.place object)
    (parses : Declaration.ofResource object = .ok d) (plain : CountsPlainly object) :
    d.status.readyReplicas = reportedCount object := by
  obtain ⟨fields, metadata, rfl, has, names⟩ := kept.states
  have reads := (Declaration.ofResource_eq_ok_iff has).1 parses
  obtain ⟨own, isStatus, status⟩ := reads.statusFields
  obtain ⟨_, same, count, -⟩ := Status.ofJson_eq_ok_iff.1 status
  cases same
  have usual := dig?_section "status" "readyReplicas" isStatus
  have other := dig?_section "status" "ready_replicas" isStatus
  rcases plain with ⟨n, leads⟩ | ⟨nothing, neither⟩
  · rw [leads] at usual
    simp only [reportedCount, leads]
    simp only [Checked.field, List.find?_cons, ← usual, Option.isSome_some, Option.getD_some,
      Checked.whole, Except.ok.injEq] at count
    exact count.symm
  · rw [nothing] at usual
    rw [neither] at other
    simp only [reportedCount, nothing]
    simp only [Checked.field, List.find?_cons, List.find?_nil, ← usual, ← other,
      Option.isSome_none, Except.ok.injEq] at count
    exact count.symm

/-! ## Every phase goes through -/

theorem exists_routeEnsures (inOrder : s.InOrder) (quiet : s.failures = [])
    (sections : ∀ name live, routeClass = some name → s.get? (d.routeStep name).place = some live →
      RouteStep.HasSection live) :
    ∃ route after, (d.ensureRoute routeClass).run Store.answer s = (.ok route, after) ∧
      RouteEnsures d routeClass s route after := by
  cases routeClass with
  | none => exact ⟨_, _, rfl, rfl, rfl⟩
  | some name =>
      obtain ⟨route, after, object, ran, ensures⟩ :=
        EnsureStep.exists_ensures (d.routeStep_lawful name) inOrder quiet fun live found =>
          RouteStep.alignable (inOrder _ _ found).isRecord (sections name live rfl found)
      exact ⟨route, after, ran, object, ensures⟩

theorem hasStatus_of_ensures {result : Ensured}
    (ensures : d.workloadStep.Ensures d.workloadAligned s result live after)
    (status : ∀ old, s.get? d.workloadStep.place = some old → HasStatus old) : HasStatus live := by
  intro section_ has holds
  rcases status_of_ensures ensures with nothing | ⟨old, found, kept⟩
  · rw [nothing] at has
    cases has
  · rw [kept] at has
    exact status old found section_ has holds

theorem readsSoundly_of_quiet (quiet : s.failures = []) : ReadsSoundly routeClass s := by
  intro kind among fault arranged
  rw [Store.failure?_of_quiet quiet] at arranged
  cases arranged

/-- Where no failure is arranged, the steps go through one after the other. -/
theorem exists_steps (inOrder : s.InOrder) (quiet : s.failures = [])
    (wellFormed : WellFormed d routeClass s) :
    ∃ workload endpoint route s₁ s₂ s₃ live offered,
      d.workloadStep.ensure.run Store.answer s = (.ok workload, s₁) ∧
      d.endpointStep.ensure.run Store.answer s₁ = (.ok endpoint, s₂) ∧
      (d.ensureRoute routeClass).run Store.answer s₂ = (.ok route, s₃) ∧
      StepsDone d routeClass s s₁ s₂ s₃ workload endpoint route live offered := by
  obtain ⟨workload, s₁, live, ran₁, first⟩ := EnsureStep.exists_ensures d.workloadStep_lawful
    inOrder quiet fun live found => WorkloadStep.alignable (wellFormed.containers live found)
  have quiet₁ := first.failures.trans quiet
  obtain ⟨endpoint, s₂, offered, ran₂, second⟩ := EnsureStep.exists_ensures d.endpointStep_lawful
    first.inOrder quiet₁ (by
      intro live found
      have isRecord := (first.inOrder _ _ found).isRecord
      rw [first.get?_of_kind (by decide : "Service" ≠ "Deployment")] at found
      exact EndpointStep.alignable isRecord (wellFormed.ports live found))
  have quiet₂ := second.failures.trans quiet₁
  obtain ⟨route, s₃, ran₃, third⟩ := exists_routeEnsures second.inOrder quiet₂ (by
    intro name live inForce found
    rw [second.get?_of_kind (by decide : "Ingress" ≠ "Service"),
      first.get?_of_kind (by decide : "Ingress" ≠ "Deployment")] at found
    exact wellFormed.section_ name live inForce found)
  exact ⟨workload, endpoint, route, s₁, s₂, s₃, live, offered, ran₁, ran₂, ran₃,
    first, second, third⟩

/-- The status phase goes through after them. -/
theorem exists_phases (inOrder : s.InOrder) (quiet : s.failures = [])
    (stored : s.get? key.place = some object) (parses : Declaration.ofResource object = .ok d)
    (wellFormed : WellFormed d routeClass s) :
    ∃ workload endpoint route written s₁ s₂ s₃ after,
      PassPhases d routeClass s workload endpoint route written s₁ s₂ s₃ after := by
  obtain ⟨workload, endpoint, route, s₁, s₂, s₃, live, offered, ran₁, ran₂, ran₃, steps⟩ :=
    exists_steps inOrder quiet wellFormed
  have stored₃ : s₃.get? key.place = some object := by
    rw [steps.declaration_kept, stored]
  have status := hasStatus_of_ensures steps.workload wellFormed.status
  have readable : ∃ count, readyReplicas workload.object = .ok count := by
    obtain ⟨fields, rfl⟩ := (steps.workload.inOrder _ _ steps.workload.stored).isRecord
    rw [steps.workload.reported]
    exact exists_readyReplicas status
  obtain ⟨count, read⟩ := readable
  obtain ⟨written, after, ran₄⟩ := exists_run_reconcileStatus steps.inOrder
    (steps.failures.trans quiet) stored₃ parses (steps.observed wellFormed.counts read)
  exact ⟨workload, endpoint, route, written, s₁, s₂, s₃, after, ran₁, ran₂, ran₃, ran₄⟩

/-! ## The state that a pass comes to -/

/-- What a pass does about the objects of a declaration, in order. -/
def expectedOutcomes (d : Declaration) (routeClass : Option String) (s : Store) : Outcomes :=
  [("Deployment", .expected (WorkloadStep.isAligned d.spec.replicas d.spec.image)
      (s.get? (.ofTexts .deployment d.namespaceName d.name))),
    ("Service", .expected (EndpointStep.isAligned d.spec.servicePort d.spec.containerPort)
      (s.get? (.ofTexts .service d.namespaceName d.name))),
    ("Ingress", match routeClass with
      | none => .skipped
      | some name => .expected (RouteStep.isAligned name)
          (s.get? (.ofTexts .ingress d.namespaceName (d.name ++ "-ingress"))))]

/-- The objects of a declaration are as it wants them, the declaration has the ready count
of its workload, and the report says what was done. -/
structure Converged (key : ObjectKey) (d : Declaration) (object : Json)
    (routeClass : Option String) (s after : Store) (report : PassReport) : Prop where
  success : report.success = true
  keyed : key.name = .str d.name ∧
    key.namespaceName.orElse (.str defaultNamespace) = .str d.namespaceName
  workload : ∃ live, after.get? (.ofTexts .deployment d.namespaceName d.name) = some live ∧
    WorkloadStep.isAligned d.spec.replicas d.spec.image live = true
  endpoint : ∃ live, after.get? (.ofTexts .service d.namespaceName d.name) = some live ∧
    EndpointStep.isAligned d.spec.servicePort d.spec.containerPort live = true
  route : ∀ name, routeClass = some name → ∃ live,
    after.get? (.ofTexts .ingress d.namespaceName (d.name ++ "-ingress")) = some live ∧
      RouteStep.isAligned name live = true
  count : ∃ live stored other,
    after.get? (.ofTexts .deployment d.namespaceName d.name) = some live ∧
      after.get? key.place = some stored ∧ Declaration.ofResource stored = .ok other ∧
      other.status.readyReplicas = reportedCount live ∧
      (report.statusUpdated = true ∨ CountsPlainly object →
        reportedCount stored = reportedCount live)
  outcomes : report.outcomes = expectedOutcomes d routeClass s

/-- What the phases have done is what a pass is to come to. -/
theorem converged_of_effects {workload endpoint route : Outcome} (inOrder : s.InOrder)
    (stored : s.get? key.place = some object) (parses : Declaration.ofResource object = .ok d)
    (effects : PassEffects key d routeClass s after workload endpoint route written live) :
    Converged key d object routeClass s after (.succeeded [("Deployment", workload),
      ("Service", endpoint), ("Ingress", route)] written) where
  success := rfl
  keyed := key_of_stored (inOrder _ _ stored) parses
  workload := ⟨live, effects.workload.stored, effects.workload.aligned⟩
  endpoint := by
    obtain ⟨offered, brought⟩ := effects.endpoint
    exact ⟨offered, brought.stored, brought.aligned⟩
  route := by
    rintro name rfl
    obtain ⟨routed, brought⟩ := effects.route
    exact ⟨routed, brought.stored, brought.aligned⟩
  count := by
    obtain ⟨now, other, found, again, -, count, marked⟩ := effects.declaration
    refine ⟨live, now, other, effects.workload.stored, found, again, count, ?_⟩
    intro plain
    cases wrote : written with
    | true =>
        have leads := marked wrote
        simp only [reportedCount, leads]
    | false =>
        have same := effects.untouched wrote
        rw [found, stored] at same
        cases same
        rw [parses] at again
        cases again
        rcases plain with updated | plain
        · rw [wrote] at updated
          cases updated
        · rw [← readyReplicas_of_plain (inOrder _ _ stored) parses plain, count]
  outcomes := by
    obtain ⟨offered, brought⟩ := effects.endpoint
    have first := effects.workload.outcome
    have second := brought.outcome
    have third := effects.route
    cases routeClass with
    | none =>
        have skipped : route = .skipped := third
        subst first second skipped
        rfl
    | some name =>
        obtain ⟨routed, brought⟩ := third
        have outcome := brought.outcome
        subst first second outcome
        rfl

theorem WellFormed.congr {other : Store} (wellFormed : WellFormed d routeClass s)
    (objects : other.objects = s.objects) : WellFormed d routeClass other := by
  have same := Store.get?_of_objects objects
  obtain ⟨containers, status, counts, ports, section_⟩ := wellFormed
  constructor <;> simpa only [same]

/-- Only the objects of the stores count. -/
theorem Converged.congr {report : PassReport} {s' after' : Store}
    (converged : Converged key d object routeClass s after report)
    (before : s'.objects = s.objects) (later : after'.objects = after.objects) :
    Converged key d object routeClass s' after' report := by
  have sameBefore := Store.get?_of_objects before
  have sameLater := Store.get?_of_objects later
  obtain ⟨success, keyed, workload, endpoint, route, count, outcomes⟩ := converged
  refine ⟨success, keyed, ?_, ?_, ?_, ?_, ?_⟩
  · simpa only [sameLater] using workload
  · simpa only [sameLater] using endpoint
  · simpa only [sameLater] using route
  · simpa only [sameLater] using count
  · rw [outcomes]
    simp only [expectedOutcomes, sameBefore]

/-- A pass converges: where the declaration parses, the stored objects can be compared and
edited and no call fails, the pass succeeds and comes to the state that is wanted. -/
theorem pass_converges {source : RouteClassSource} (reached : s.Reached)
    (stored : s.get? key.place = some object) (parses : Declaration.ofResource object = .ok d)
    (wellFormed : WellFormed d source.resolve s)
    (noneFails : ∀ call ∈ (reconcile source.resolve key).queries Store.answer s,
      s.failure? call.operation call.kind = none) :
    ∃ report after, (reconcile source.resolve key).run Store.answer s = (.ok report, after) ∧
      Converged key d object source.resolve s after report := by
  have calm : s.clearFailures.InOrder := reached.inOrder.of_objects rfl
  have begun : (readIn key s.clearFailures).InOrder := calm.of_objects rfl
  -- the pass is followed in the store without failures, where it goes the same way
  obtain ⟨workload, endpoint, route, written, s₁, s₂, s₃, after, phases⟩ :=
    exists_phases begun rfl stored parses (wellFormed.congr rfl)
  obtain ⟨live, effects⟩ := effects_of_phases begun (readsSoundly_of_quiet rfl) stored parses
    wellFormed.counts phases
  have fetched := run_fetch_of_stored (s := s.clearFailures) rfl (calm _ _ stored).usable stored
    parses
  have ran : (reconcile source.resolve key).run Store.answer s.clearFailures =
      (.ok (.ofPhases workload endpoint route written), after) := by
    rw [run_reconcile, fetched]
    exact run_passFor phases
  rw [Store.run_clearFailures _ s noneFails, Prod.mk.injEq] at ran
  obtain ⟨report, rfl⟩ := ran
  refine ⟨_, _, Prod.ext report rfl, ?_⟩
  exact (converged_of_effects begun stored parses effects).congr rfl rfl

/-- A workload with one container and a ready count is well formed, and nothing else has to
be there. -/
theorem wellFormed_of_one_container {metadata : Json} {container : Fields} {replicas ready : Int}
    (workload : s.get? d.workloadStep.place = some (.obj [("metadata", metadata),
      ("spec", .obj [("replicas", .int replicas), ("template", .obj [("spec", .obj [("containers",
        .arr [.obj container])])])]),
      ("status", .obj [("readyReplicas", .int ready)])]))
    (noEndpoint : s.get? d.endpointStep.place = none)
    (noRoute : ∀ name, s.get? (d.routeStep name).place = none) : WellFormed d routeClass s where
  containers := by
    intro live found
    rw [workload] at found
    cases found
    refine ⟨_, rfl, List.cons_ne_nil _ _, ?_⟩
    intro item among
    rw [List.mem_singleton] at among
    exact ⟨_, among⟩
  status := by
    intro live found status has _
    rw [workload] at found
    cases found
    cases has
    exact ⟨_, rfl⟩
  counts := by
    intro live found count leads
    rw [workload] at found
    cases found
    cases leads
    exact .inr ⟨ready, rfl⟩
  ports := by
    intro live found
    rw [noEndpoint] at found
    cases found
  section_ := by
    intro name live _ found
    rw [noRoute] at found
    cases found

/-- A pass that finds a workload to update comes to the state that is wanted. -/
theorem sample_pass_converges : ∃ object d report after,
    sampleStore.get? sampleKey.place = some object ∧ Declaration.ofResource object = .ok d ∧
      (reconcile (some "nginx") sampleKey).run Store.answer sampleStore = (.ok report, after) ∧
      report.outcomes = [("Deployment", .updated), ("Service", .created), ("Ingress", .created)] ∧
      Converged sampleKey d object (some "nginx") sampleStore after report := by
  obtain ⟨object, stored, d, parses⟩ : ∃ object, sampleStore.get? sampleKey.place = some object ∧
      ∃ d, Declaration.ofResource object = .ok d := ⟨_, rfl, _, rfl⟩
  have wellFormed : WellFormed d (some "nginx") sampleStore := by
    cases stored
    cases parses
    exact wellFormed_of_one_container rfl rfl fun name => rfl
  have inForce : (RouteClassSource.fixed (some "nginx")).resolve = some "nginx" := by rfl
  obtain ⟨report, after, ran, converged⟩ := pass_converges sampleStore_reached stored parses
    (inForce ▸ wellFormed) (fun call _ => rfl)
  rw [inForce] at ran converged
  refine ⟨object, d, report, after, stored, parses, ran, ?_, converged⟩
  rw [converged.outcomes]
  cases stored
  cases parses
  rfl

/-- A declaration whose status says its ready count under another name that is read. -/
def renamedStore : Store :=
  ((Store.empty.seed .simpleApp
      (.obj [("metadata", .obj [("name", .str "web")]),
        ("spec", .obj [("image", .str "nginx:1"), ("containerPort", .int 8080)]),
        ("status", .obj [("ready_replicas", .int 2)])])).2.seed .deployment
    (.obj [("metadata", .obj [("name", .str "web")]),
      ("spec", .obj [("replicas", .int 1), ("template", .obj [("spec", .obj [("containers",
        .arr [.obj [("name", .str "app"), ("image", .str "nginx:1")]])])])]),
      ("status", .obj [("readyReplicas", .int 2)])])).2

/-- A ready count that is read under another name is not written under its own: after a pass
that succeeds the declaration does not state the count of its workload. -/
theorem renamed_count_is_not_written : ∃ object d report after live stored,
    renamedStore.Reached ∧ renamedStore.failures = [] ∧
      renamedStore.get? sampleKey.place = some object ∧
      Declaration.ofResource object = .ok d ∧ WellFormed d none renamedStore ∧
      (reconcile none sampleKey).run Store.answer renamedStore = (.ok report, after) ∧
      report.success = true ∧
      after.get? (.ofTexts .deployment "default" "web") = some live ∧
      after.get? sampleKey.place = some stored ∧
      reportedCount live = 2 ∧ reportedCount stored = 0 := by
  refine ⟨_, _, _, _, _, _, .seeded (.seeded .empty _ _) _ _, rfl, rfl, rfl, ?_, rfl, rfl, rfl,
    rfl, rfl, rfl⟩
  exact wellFormed_of_one_container rfl rfl fun name => rfl

end AppOperator
