import AppOperator.Proofs.Reconcile.Convergence
import AppOperator.Proofs.Reconcile.FixedPoint
import AppOperator.Proofs.Reconcile.Interruption

/-!
# Recovery

A pass that is started where another one was interrupted finds the steps that went
through with nothing to do, and goes on from there as the other one would have gone
on.  So it comes to the state that a pass without failures would have come to.
-/

set_option autoImplicit false

namespace AppOperator

open Dialogue (run)
open Store

variable {s t after : Store} {d : Declaration} {key : ObjectKey} {object : Json}
  {routeClass : Option String}

/-- The store is one of these, but for what has been recorded. -/
def OneOf (stages : List Store) (t : Store) : Prop :=
  ∃ stage ∈ stages, SameButCalls stage t

theorem OneOf.record {stages : List Store} (among : OneOf stages t) (operation : Operation)
    (kind : ResourceKind) (namespaceName subject : Json) :
    OneOf stages (t.record operation kind namespaceName subject) := by
  obtain ⟨stage, among, same⟩ := among
  exact ⟨stage, among, same.trans (.record t _ _ _ _)⟩

/-- A state of the cluster after a step: its object is there, and no failure is arranged. -/
structure HasObject (step : EnsureStep) (object : Json) (stage : Store) : Prop where
  inOrder : stage.InOrder
  quiet : stage.failures = []
  stored : stage.get? step.place = some object

/-- A step that went through before one of these states is run again in one of them, or for
the first time in the state before. -/
theorem resume_ensure {step : EnsureStep} {aligned : Json → Bool} {before behind : Store}
    {result : Ensured} {later : List Store} (lawful : step.Lawful aligned)
    (ran : step.ensure.run answer before = (.ok result, behind))
    (ensures : step.Ensures aligned before result object behind) (next : behind ∈ later)
    (still : ∀ stage ∈ later, HasObject step object stage) (among : OneOf (before :: later) t) :
    ∃ again last, step.ensure.run answer t = (.ok again, last) ∧ again.object = some object ∧
      OneOf later last := by
  obtain ⟨stage, among, same⟩ := among
  rcases List.mem_cons.1 among with rfl | among
  · obtain ⟨last, runs, alike⟩ := exists_run_of_sameButCalls ran same
    exact ⟨result, last, runs, ensures.reported, behind, next, alike⟩
  · obtain ⟨inOrder, quiet, stored⟩ := still stage among
    have inOrder' : t.InOrder := inOrder.of_objects same.objects
    have readable : t.failure? .get step.kind = none :=
      failure?_of_quiet (same.failures.trans quiet) _ _
    have found : t.get? step.place = some object := by
      rw [get?_of_objects same.objects, stored]
    have runs := EnsureStep.run_ensure_of_aligned lawful inOrder' readable found ensures.aligned
    exact ⟨_, _, runs, rfl, stage, among, same.trans (.record t _ _ _ _)⟩

theorem resume_ensureRoute {before behind : Store} {route : Ensured} {later : List Store}
    (ran : (d.ensureRoute routeClass).run answer before = (.ok route, behind))
    (ensures : RouteEnsures d routeClass before route behind) (next : behind ∈ later)
    (still : ∀ name object, routeClass = some name → behind.get? (d.routeStep name).place =
      some object → ∀ stage ∈ later, HasObject (d.routeStep name) object stage)
    (among : OneOf (before :: later) t) :
    ∃ again last, (d.ensureRoute routeClass).run answer t = (.ok again, last) ∧
      OneOf later last := by
  cases routeClass with
  | none =>
      obtain ⟨-, rfl⟩ := ensures
      obtain ⟨stage, among, same⟩ := among
      rcases List.mem_cons.1 among with rfl | among
      · exact ⟨_, t, rfl, _, next, same⟩
      · exact ⟨_, t, rfl, _, among, same⟩
  | some name =>
      obtain ⟨object, ensures⟩ := ensures
      obtain ⟨again, last, runs, -, resumed⟩ := resume_ensure (d.routeStep_lawful name) ran
        ensures next (still name object rfl ensures.stored) among
      exact ⟨again, last, runs, resumed⟩

/-- A pass goes on from every state between the phases of another one to its end. -/
theorem resume_passFor {workload endpoint route : Ensured} {written : Bool}
    {s₁ s₂ s₃ : Store} {live offered : Json} (quiet : s.failures = [])
    (phases : PassPhases d routeClass s workload endpoint route written s₁ s₂ s₃ after)
    (steps : StepsDone d routeClass s s₁ s₂ s₃ workload endpoint route live offered)
    (among : OneOf [s, s₁, s₂, s₃] t) :
    ∃ again last, (passFor d routeClass).run answer t = (.ok again, last) ∧
      again.success = true ∧ SameButCalls after last := by
  have quiet₁ := steps.workload.failures.trans quiet
  have quiet₂ := steps.endpoint.failures.trans quiet₁
  have quiet₃ := steps.route.failures.trans quiet₂
  have inOrder₁ := steps.workload.inOrder
  have inOrder₂ := steps.endpoint.inOrder
  have inOrder₃ := steps.inOrder
  have workload₁ := steps.workload.stored
  have workload₂ : s₂.get? d.workloadStep.place = some live := by
    rw [steps.endpoint.get?_of_kind (by decide : "Deployment" ≠ "Service"), workload₁]
  have workload₃ : s₃.get? d.workloadStep.place = some live := by
    rw [steps.route.get?_of_kind (by decide : "Deployment" ≠ "Ingress"), workload₂]
  have endpoint₂ := steps.endpoint.stored
  have endpoint₃ : s₃.get? d.endpointStep.place = some offered := by
    rw [steps.route.get?_of_kind (by decide : "Service" ≠ "Ingress"), endpoint₂]
  obtain ⟨workload', t₁, ran₁, reported, among₁⟩ := resume_ensure d.workloadStep_lawful
    phases.ensureWorkload steps.workload (List.mem_cons_self ..) (by
      simp only [List.forall_mem_cons]
      exact ⟨⟨inOrder₁, quiet₁, workload₁⟩, ⟨inOrder₂, quiet₂, workload₂⟩,
        ⟨inOrder₃, quiet₃, workload₃⟩, by simp⟩) among
  obtain ⟨endpoint', t₂, ran₂, -, among₂⟩ := resume_ensure d.endpointStep_lawful
    phases.ensureEndpoint steps.endpoint (List.mem_cons_self ..) (by
      simp only [List.forall_mem_cons]
      exact ⟨⟨inOrder₂, quiet₂, endpoint₂⟩, ⟨inOrder₃, quiet₃, endpoint₃⟩, by simp⟩) among₁
  obtain ⟨route', t₃, ran₃, among₃⟩ := resume_ensureRoute phases.ensureRoute steps.route
    (List.mem_cons_self ..) (by
      intro name object _ stored
      simp only [List.forall_mem_cons]
      exact ⟨⟨inOrder₃, quiet₃, stored⟩, by simp⟩) among₂
  -- the workload is the one that the other pass has seen, so the status phase is the same
  obtain ⟨stage, isLast, same⟩ := among₃
  obtain rfl := List.mem_singleton.1 isLast
  have sameObject : workload'.object = workload.object := reported.trans steps.workload.reported.symm
  obtain ⟨last, ran₄, alike⟩ := exists_run_of_sameButCalls phases.reconcileStatus same
  rw [← sameObject] at ran₄
  exact ⟨_, last, run_passFor ⟨ran₁, ran₂, ran₃, ran₄⟩, rfl, alike⟩

/-! ## Declarations that do not parse -/

theorem Checked.endsPass_of_orFault {α : Type} {model : String} {checked : Checked α}
    {fault : Fault} (fails : checked.orFault model = .error fault) : fault.endsPass = true := by
  cases checked with
  | ok value => cases fails
  | error errors =>
      cases fails
      rfl

/-- A stored object that is no declaration is found invalid. -/
theorem endsPass_of_ofResource {at_ : ObjectPlace} {fault : Fault} (kept : KeptAt at_ object)
    (fails : Declaration.ofResource object = .error fault) : fault.endsPass = true := by
  obtain ⟨fields, metadata, rfl, has, names⟩ := kept.states
  obtain ⟨name, named, -⟩ := names.name
  simp only [Declaration.ofResource, Json.fieldOr_obj, has, Option.getD_some, Json.entry, named,
    bind, Except.bind] at fails
  split at fails
  · next checks =>
      cases fails
      exact Checked.endsPass_of_orFault checks
  · split at fails
    · next checks =>
        cases fails
        exact Checked.endsPass_of_orFault checks
    · exact Checked.endsPass_of_orFault fails

/-! ## Whole passes -/

/-- How a pass with arranged failures ends next to one without: in the same way if none of its
calls fails, and else with the report of the first one that does, after the effects of the calls
before it. -/
inductive Ended (pass : ClientM (Except Fault PassReport)) (s : Store) (clean report : PassReport)
    (cleanAfter after : Store) : Prop
  | undisturbed (quiet : ∀ call ∈ pass.queries answer s, s.Quiet call)
      (calls : pass.queries answer s.clearFailures = pass.queries answer s)
      (report : report = clean) (after : after.clearFailures = cleanAfter)
  | interrupted {earlier later : List ClientCall} {call : ClientCall} {fault : Fault}
      (fails : FailsAt pass s earlier call later fault)
      (report : report =
        .failedIn call.phase (clean.outcomes.take call.phase.stepsBefore) fault)

/-- What happens to a pass, and to the next one after the failures are cleared. -/
structure Recovers (pass : ClientM (Except Fault PassReport)) (s : Store)
    (clean report again : PassReport) (cleanAfter after last : Store) : Prop where
  undisturbed : pass.run answer s.clearFailures = (.ok clean, cleanAfter)
  ran : pass.run answer s = (.ok report, after)
  ended : Ended pass s clean report cleanAfter after
  next : pass.run answer after.clearFailures = (.ok again, last)
  success : again.success = clean.success
  recovered : last.objects = cleanAfter.objects

theorem recovers_of_course {pass : ClientM (Except Fault PassReport)} {clean : PassReport}
    {cleanAfter : Store} {stages : List Store}
    (cleanRan : pass.run answer s.clearFailures = (.ok clean, cleanAfter))
    (course : Course pass s clean stages)
    (resumes : ∀ t, OneOf (cleanAfter :: stages) t → ∃ again last,
      pass.run answer t = (.ok again, last) ∧ again.success = clean.success ∧
        last.objects = cleanAfter.objects) :
    ∃ report again after last, Recovers pass s clean report again cleanAfter after last := by
  cases course with
  | quiet quiet =>
      have runs := cleanRan
      rw [run_clearFailures pass s quiet, Prod.mk.injEq] at runs
      obtain ⟨report, behind⟩ := runs
      obtain ⟨again, last, next, success, objects⟩ :=
        resumes (pass.run answer s).2.clearFailures
          ⟨cleanAfter, List.mem_cons_self .., by rw [behind]; exact .refl _⟩
      exact ⟨clean, again, _, last, cleanRan, Prod.ext report rfl,
        .undisturbed quiet (queries_clearFailures pass s quiet) rfl behind, next, success, objects⟩
  | fails fails report among untouched =>
      obtain ⟨again, last, next, success, objects⟩ :=
        resumes _ ⟨_, List.mem_cons_of_mem _ among, untouched⟩
      exact ⟨_, again, _, last, cleanRan, Prod.ext report rfl, .interrupted fails rfl, next,
        success, objects⟩

theorem fst_run_fetch_of_quiet (quiet : s.failure? .get .simpleApp = none) :
    ((fetch key).run answer s).1 = ((fetch key).run answer s.clearFailures).1 := by
  have quietCalls : ∀ call ∈ (fetch key).queries answer s, s.Quiet call := by
    intro call among
    rw [queries_fetch, List.mem_singleton] at among
    rw [among]
    exact quiet
  rw [run_clearFailures (fetch key) s quietCalls]

/-- A pass that ends with its fetch has nothing to go on with. -/
theorem recovers_of_idle {clean : PassReport} (only : s.OnlyApiErrors)
    (ends : orStop .fetch [] (passOf routeClass) ((fetch key).run answer s.clearFailures).1 =
      .done (.ok clean)) :
    ∃ report again after last, Recovers (reconcile routeClass key) s clean report again
      (readIn key s.clearFailures) after last := by
  have cleanRan : (reconcile routeClass key).run answer s.clearFailures =
      (.ok clean, readIn key s.clearFailures) := by
    rw [run_reconcile, ends]
    rfl
  have course : Course (reconcile routeClass key) s clean [s.clearFailures] := by
    refine course_reconcile only ?_
    intro quiet
    rw [fst_run_fetch_of_quiet quiet, ends]
    exact .quiet fun call among => by cases among
  refine recovers_of_course cleanRan course ?_
  intro t among
  have same : SameButCalls s.clearFailures t := by
    obtain ⟨stage, among, same⟩ := among
    rcases List.mem_cons.1 among with rfl | among
    · exact (SameButCalls.record _ _ _ _ _).trans same
    · rw [List.mem_singleton.1 among] at same
      exact same
  obtain ⟨last, runs, alike⟩ := exists_run_of_sameButCalls cleanRan same
  exact ⟨clean, last, runs, rfl, alike.objects⟩

/-- A pass that finds the declaration goes on from every state between the phases of another
one to its end. -/
theorem resume_reconcile {workload endpoint route : Ensured} {written : Bool}
    {s₁ s₂ s₃ : Store} {live offered : Json} (usable_ : usable key.place = .ok key.place)
    (quiet : s.failures = []) (stored : s.get? key.place = some object)
    (parses : Declaration.ofResource object = .ok d)
    (phases : PassPhases d routeClass s workload endpoint route written s₁ s₂ s₃ after)
    (steps : StepsDone d routeClass s s₁ s₂ s₃ workload endpoint route live offered)
    (among : OneOf [s, s₁, s₂, s₃] t) :
    ∃ again last, (reconcile routeClass key).run answer t = (.ok again, last) ∧
      again.success = true ∧ SameButCalls after last := by
  have stored₁ : s₁.get? key.place = some object := by
    rw [steps.workload.get?_of_kind (by decide : "SimpleApp" ≠ "Deployment"), stored]
  have stored₂ : s₂.get? key.place = some object := by
    rw [steps.endpoint.get?_of_kind (by decide : "SimpleApp" ≠ "Service"), stored₁]
  have stored₃ : s₃.get? key.place = some object := by
    rw [steps.declaration_kept, stored]
  have found : t.get? key.place = some object ∧ t.failures = [] := by
    have each : ∀ stage ∈ [s, s₁, s₂, s₃], stage.get? key.place = some object ∧
        stage.failures = [] := by
      simp only [List.forall_mem_cons]
      exact ⟨⟨stored, quiet⟩, ⟨stored₁, steps.workload.failures.trans quiet⟩,
        ⟨stored₂, steps.endpoint.failures.trans (steps.workload.failures.trans quiet)⟩,
        ⟨stored₃, steps.failures.trans quiet⟩, by simp⟩
    obtain ⟨stage, among, same⟩ := among
    obtain ⟨here, calm⟩ := each stage among
    exact ⟨by rw [get?_of_objects same.objects, here], same.failures.trans calm⟩
  have fetched := run_fetch_of_stored (failure?_of_quiet found.2 _ _) usable_ found.1 parses
  rw [run_reconcile, fetched]
  exact resume_passFor quiet phases steps (among.record _ _ _ _)

theorem recovers_of_stored (inOrder : s.InOrder) (only : s.OnlyApiErrors)
    (stored : s.get? key.place = some object) (parses : Declaration.ofResource object = .ok d)
    (wellFormed : WellFormed d routeClass s) :
    ∃ clean cleanAfter report again after last,
      Recovers (reconcile routeClass key) s clean report again cleanAfter after last := by
  have usable_ := (inOrder _ _ stored).usable
  have begun : (readIn key s.clearFailures).InOrder := inOrder.of_objects rfl
  obtain ⟨workload, endpoint, route, written, s₁, s₂, s₃, cleanAfter, phases⟩ :=
    exists_phases begun rfl stored parses (wellFormed.congr rfl)
  have sound : ReadsSoundly routeClass (readIn key s.clearFailures) := readsSoundly_of_quiet rfl
  obtain ⟨live, offered, steps⟩ := steps_of_phases begun sound phases
  obtain ⟨_, effects⟩ := effects_of_phases begun sound stored parses wellFormed.counts phases
  have fetched : (fetch key).run answer s.clearFailures =
      (.ok (some d), readIn key s.clearFailures) := run_fetch_of_stored rfl usable_ stored parses
  have cleanRan : (reconcile routeClass key).run answer s.clearFailures =
      (.ok (.ofPhases workload endpoint route written), cleanAfter) := by
    rw [run_reconcile, fetched]
    exact run_passFor phases
  have course : Course (reconcile routeClass key) s (.ofPhases workload endpoint route written)
      [s.clearFailures, readIn key s.clearFailures, s₁, s₂, s₃] := by
    refine course_reconcile only ?_
    intro quiet
    rw [fst_run_fetch_of_quiet quiet, fetched]
    exact course_passFor (only.of_failures rfl) phases
  refine ⟨_, cleanAfter, recovers_of_course cleanRan course ?_⟩
  rintro t ⟨stage, among, same⟩
  rcases List.mem_cons.1 among with rfl | among
  · -- the pass had come to its end, so there is nothing left to do
    have still : SameCluster stage (readIn key t) := ⟨same.objects, same.failures⟩
    obtain ⟨object', other, last, stored', parses', ran, -, kept⟩ := effects.run_again still
    have quiet : t.failure? .get .simpleApp = none :=
      failure?_of_quiet (same.failures.trans effects.failures) _ _
    have found : t.get? key.place = some object' := by
      rw [get?_of_objects same.objects, stored']
    have again := run_fetch_of_stored quiet usable_ found parses'
    refine ⟨.succeeded (restingOutcomes routeClass) false, last, ?_, rfl, kept.objects⟩
    rw [run_reconcile, again]
    exact ran
  · have between : OneOf [readIn key s.clearFailures, s₁, s₂, s₃] t := by
      rcases List.mem_cons.1 among with rfl | among
      · exact ⟨_, List.mem_cons_self .., (SameButCalls.record _ _ _ _ _).symm.trans same⟩
      · exact ⟨stage, among, same⟩
    have present : (readIn key s.clearFailures).get? key.place = some object := stored
    obtain ⟨again, last, ran, success, alike⟩ :=
      resume_reconcile usable_ rfl present parses phases steps between
    exact ⟨again, last, ran, success, alike.objects⟩

/-- Where nothing but errors of the API is arranged, a pass reports how it ended: the first call
that fails ends it, after the effects of the calls before, and a pass after the failures are
cleared comes to the state that a pass without failures would have come to. -/
theorem interrupted_pass_recovers (reached : s.Reached)
    (usable_ : usable key.place = .ok key.place)
    (wellFormed : ∀ object d, s.get? key.place = some object →
      Declaration.ofResource object = .ok d → WellFormed d routeClass s)
    (only : s.OnlyApiErrors) :
    ∃ clean cleanAfter report again after last,
      Recovers (reconcile routeClass key) s clean report again cleanAfter after last := by
  have inOrder := reached.inOrder
  have answered := run_fetch key s.clearFailures
  cases stored : s.get? key.place with
  | none =>
      obtain ⟨error, read, missing⟩ := get_of_absent (s := s.clearFailures) rfl usable_ stored
      have fetched : ((fetch key).run answer s.clearFailures).1 = .ok none := by
        rw [answered, read]
        simp only [Fault.isNotFound, missing, if_true]
      refine ⟨.absent, _, recovers_of_idle only ?_⟩
      rw [fetched]
      rfl
  | some object =>
      have read : (s.clearFailures.get .simpleApp key.namespaceName key.name).1 = .ok object :=
        get_eq_ok_iff.2 ⟨rfl, usable_, stored⟩
      cases parses : Declaration.ofResource object with
      | ok d => exact recovers_of_stored inOrder only stored parses (wellFormed object d stored parses)
      | error fault =>
          have ends := endsPass_of_ofResource (inOrder _ _ stored) parses
          have fetched : ((fetch key).run answer s.clearFailures).1 = .error fault := by
            rw [answered, read]
            simp only [parses]
            rfl
          refine ⟨.failedIn .fetch [] fault, _, recovers_of_idle only ?_⟩
          rw [fetched]
          simp only [orStop, stopPass, ends, if_true]
          rfl

def refusingStore : Store :=
  sampleStore.fail .create .service (.api (.general (.int 500) "InternalError" "no"))

/-- A pass updates the workload and is interrupted when it creates the endpoint; the next one
finds the workload as it wants it. -/
theorem interrupted_sample_pass_recovers : ∃ clean cleanAfter report again after last,
    Recovers (reconcile (some "nginx") sampleKey) refusingStore clean report again cleanAfter after
      last ∧
    report = .failedIn .ensureEndpoint [("Deployment", .updated)]
      (.api (.general (.int 500) "InternalError" "no")) ∧
    clean.outcomes = [("Deployment", .updated), ("Service", .created), ("Ingress", .created)] ∧
    again.outcomes = [("Deployment", .unchanged), ("Service", .created), ("Ingress", .created)] := by
  let pass := reconcile (some "nginx") sampleKey
  have reached : refusingStore.Reached := .failing (.seeded (.seeded .empty _ _) _ _) _ _ _
  have only : refusingStore.OnlyApiErrors := by
    intro operation kind fault arranged
    have one : refusingStore.failures = [((.create, "Service"),
      .api (.general (.int 500) "InternalError" "no"))] := rfl
    simp only [failure?, one, List.find?_singleton] at arranged
    split at arranged
    · next isCreate =>
        cases arranged
        obtain ⟨rfl, -⟩ := Prod.mk.inj (eq_of_beq isCreate)
        exact ⟨⟨_, rfl⟩, fun isRead => by cases isRead⟩
    · cases arranged
  have recovered : ∃ clean cleanAfter report again after last,
      Recovers pass refusingStore clean report again cleanAfter after last := by
    refine interrupted_pass_recovers reached rfl ?_ only
    intro object d stored parses
    cases stored
    cases parses
    exact wellFormed_of_one_container rfl rfl fun name => rfl
  obtain ⟨clean, cleanAfter, report, again, after, last, recovers⟩ := recovered
  have ran : (pass.run answer refusingStore).1 = .ok (.failedIn .ensureEndpoint
    [("Deployment", .updated)] (.api (.general (.int 500) "InternalError" "no"))) := by rfl
  have cleanRan : (pass.run answer refusingStore.clearFailures).1 = .ok (.succeeded
    [("Deployment", .updated), ("Service", .created), ("Ingress", .created)] true) := by rfl
  have nextRan : (pass.run answer (pass.run answer refusingStore).2.clearFailures).1 =
    .ok (.succeeded [("Deployment", .unchanged), ("Service", .created), ("Ingress", .created)]
      true) := by rfl
  rw [recovers.ran] at ran nextRan
  rw [recovers.undisturbed] at cleanRan
  rw [recovers.next] at nextRan
  cases ran
  cases cleanRan
  cases nextRan
  exact ⟨_, _, _, _, _, _, recovers, rfl, rfl, rfl⟩

end AppOperator
