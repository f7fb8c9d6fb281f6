import AppOperator.Proofs.Reconcile.Ensure
import AppOperator.Proofs.Declaration.Reading

/-!
# The phases of a pass

A pass runs its phases one after the other in the store that the one before has
left behind.  For every phase there is a lemma that says what a phase that goes
through has found and done; `PassPhases` puts them in their order.
-/

set_option autoImplicit false

namespace AppOperator

/-- The ready count that an object reports, zero when it reports none. -/
def reportedCount (object : Json) : Int :=
  match object.dig? ["status", "readyReplicas"] with
  | some (.int count) => count
  | _ => 0

/-- An object whose ready count, if there is one, is null or a whole number. -/
def CountsWhole (object : Json) : Prop :=
  ∀ count, object.dig? ["status", "readyReplicas"] = some count →
    count = .null ∨ ∃ n, count = .int n

/-- An object whose status, if it says anything, is a record. -/
def HasStatus (object : Json) : Prop :=
  ∀ status, object.field? "status" = some status → status.holds = true → status.IsRecord

variable {s after : Store} {d : Declaration} {key : ObjectKey} {object : Json}
  {fields metadata : Fields}

/-! ## The ready count -/

theorem orElse_of_not_holds {x default : Json} (empty : x.holds = false) :
    x.orElse default = default := by
  simp only [Json.orElse, empty, Bool.false_eq_true, if_false]

theorem orElse_of_holds {x default : Json} (holds : x.holds = true) : x.orElse default = x := by
  simp only [Json.orElse, holds, if_true]

/-- What leads through a section that may be absent or empty. -/
theorem dig?_section {own : Fields} (section_ : String) (name : String)
    (read : ((Fields.get? fields section_).getD .null).orElse (.obj []) = .obj own) :
    (Json.obj fields).dig? [section_, name] = Fields.get? own name := by
  cases found : Fields.get? fields section_ with
  | none =>
      rw [found] at read
      cases read
      simp [Json.dig?, Json.field?, found]
  | some inner =>
      rw [found, Option.getD_some] at read
      have leads : (Json.obj fields).dig? [section_, name] = inner.field? name := by
        simp [Json.dig?, Json.field?, found]
      rw [leads]
      cases holds : inner.holds with
      | true =>
          rw [orElse_of_holds holds] at read
          rw [read]
          rfl
      | false =>
          rw [orElse_of_not_holds holds] at read
          cases read
          cases inner with
          | obj parts =>
              cases parts with
              | nil => rfl
              | cons part rest => cases holds
          | _ => rfl

/-- What is read as the ready count of an object is the count that it reports. -/
theorem eq_reportedCount {observed : Json} (whole : CountsWhole (.obj fields))
    (read : readyReplicas (some (.obj fields)) = .ok observed) :
    observed = .int (reportedCount (.obj fields)) := by
  unfold readyReplicas at read
  split at read
  · next same => cases same
  · next workload same =>
      cases same
      split at read
      · next empty =>
          cases fields with
          | nil => cases read; rfl
          | cons field rest => cases empty
      · simp only [Json.fieldOr_obj, bind_eq_ok_iff, Json.fieldOr_eq_ok_iff, Except.ok.injEq, pure,
          Except.pure, exists_eq_left'] at read
        obtain ⟨_, ⟨own, isStatus, rfl⟩, rfl⟩ := read
        have leads := dig?_section "status" "readyReplicas" isStatus
        cases found : Fields.get? own "readyReplicas" with
        | none =>
            rw [found] at leads
            simp only [reportedCount, leads]
            rfl
        | some count =>
            rw [found] at leads
            rcases whole count leads with rfl | ⟨n, rfl⟩
            · simp only [reportedCount, leads]
              rfl
            · simp only [reportedCount, leads, Option.getD_some]
              by_cases zero : n = 0
              · subst zero
                rfl
              · exact orElse_of_holds (by simp [Json.holds, zero])

/-- Where the status is a record, or says nothing, a ready count is read. -/
theorem exists_readyReplicas (hasStatus : HasStatus (.obj fields)) :
    ∃ observed, readyReplicas (some (.obj fields)) = .ok observed := by
  have isStatus : ∃ own, ((Fields.get? fields "status").getD .null).orElse (.obj []) = .obj own := by
    cases found : Fields.get? fields "status" with
    | none => exact ⟨[], rfl⟩
    | some status =>
        rw [Option.getD_some]
        cases holds : status.holds with
        | false => exact ⟨[], orElse_of_not_holds holds⟩
        | true =>
            obtain ⟨own, rfl⟩ := hasStatus status found holds
            exact ⟨own, orElse_of_holds holds⟩
  obtain ⟨own, isStatus⟩ := isStatus
  unfold readyReplicas
  dsimp only
  split
  · exact ⟨_, rfl⟩
  · simp only [Json.fieldOr_obj, bind, Except.bind, isStatus, pure, Except.pure]
    exact ⟨_, rfl⟩

/-! ## Reading the declaration -/

/-- Where the declaration of a key is kept. -/
def ObjectKey.place (key : ObjectKey) : ObjectPlace :=
  ⟨ResourceKind.simpleApp.name, key.namespaceName, key.name⟩

/-- The store in which the declaration of a key has been read. -/
def readIn (key : ObjectKey) (s : Store) : Store :=
  s.record .get .simpleApp key.namespaceName key.name

theorem run_fetch (key : ObjectKey) (s : Store) : (fetch key).run Store.answer s =
    (match (s.get .simpleApp key.namespaceName key.name).1 with
      | .ok object => (Declaration.ofResource object).map some
      | .error fault => if fault.isNotFound then .ok none else .error fault,
    readIn key s) := by
  unfold readIn
  rw [← Store.get_snd]
  rfl

theorem snd_run_fetch (key : ObjectKey) (s : Store) :
    ((fetch key).run Store.answer s).2 = readIn key s := by
  rw [run_fetch]

theorem except_map_eq_ok_iff {ε α β : Type} {x : Except ε α} {f : α → β} {b : β} :
    x.map f = .ok b ↔ ∃ a, x = .ok a ∧ f a = b := by
  cases x <;> simp [Except.map]

/-- What a fetch that reads a declaration has found. -/
theorem fetch_eq_some (ran : (fetch key).run Store.answer s = (.ok (some d), after)) :
    s.failure? .get .simpleApp = none ∧ Store.usable key.place = .ok key.place ∧
      (∃ object, s.get? key.place = some object ∧ Declaration.ofResource object = .ok d) ∧
      after = readIn key s := by
  rw [run_fetch, Prod.mk.injEq] at ran
  obtain ⟨answered, rfl⟩ := ran
  split at answered
  · next object read =>
      obtain ⟨quiet, usable_, found⟩ := Store.get_eq_ok_iff.1 read
      obtain ⟨d', parses, same⟩ := except_map_eq_ok_iff.1 answered
      cases same
      exact ⟨quiet, usable_, ⟨object, found, parses⟩, rfl⟩
  · split at answered <;> cases answered

/-- A fetch reads the declaration that is stored. -/
theorem run_fetch_of_stored (quiet : s.failure? .get .simpleApp = none)
    (usable_ : Store.usable key.place = .ok key.place) (stored : s.get? key.place = some object)
    (parses : Declaration.ofResource object = .ok d) :
    (fetch key).run Store.answer s = (.ok (some d), readIn key s) := by
  have read : (s.get .simpleApp key.namespaceName key.name).1 = .ok object :=
    Store.get_eq_ok_iff.2 ⟨quiet, usable_, stored⟩
  rw [run_fetch, read, Prod.mk.injEq]
  refine ⟨?_, rfl⟩
  simp only [parses]
  rfl

/-- What has been read once is read again. -/
theorem fst_run_fetch_readIn (key : ObjectKey) (s : Store) :
    ((fetch key).run Store.answer (readIn key s)).1 = ((fetch key).run Store.answer s).1 := by
  have same : ((readIn key s).get .simpleApp key.namespaceName key.name).1 =
      (s.get .simpleApp key.namespaceName key.name).1 := by
    rw [Store.get_fst, Store.get_fst]
    rfl
  rw [run_fetch, run_fetch, same]

theorem queries_fetch (key : ObjectKey) (s : Store) : (fetch key).queries Store.answer s =
    [.get .simpleApp key.namespaceName key.name] := rfl

/-! ## Writing the ready count -/

/-- Two readings of a declaration that ask for the same objects. -/
structure SameApplication (d other : Declaration) : Prop where
  name : other.name = d.name
  namespaceName : other.namespaceName = d.namespaceName
  uid : other.uid = d.uid
  spec : other.spec = d.spec

/-- The steps depend on nothing else of a declaration. -/
theorem SameApplication.steps {other : Declaration} (same : SameApplication d other) :
    other.workloadStep = d.workloadStep ∧ other.endpointStep = d.endpointStep ∧
      ∀ routeClass, other.routeStep routeClass = d.routeStep routeClass := by
  obtain ⟨name, namespaceName, uid, version, spec, status, raw⟩ := d
  obtain ⟨name', namespaceName', uid', version', spec', status', raw'⟩ := other
  obtain ⟨rfl, rfl, rfl, rfl⟩ := same
  exact ⟨rfl, rfl, fun routeClass => rfl⟩

theorem SameApplication.ensureRoute {other : Declaration} (same : SameApplication d other)
    (routeClass : Option String) : other.ensureRoute routeClass = d.ensureRoute routeClass := by
  cases routeClass with
  | none => rfl
  | some name =>
      simp only [Declaration.ensureRoute]
      rw [same.steps.2.2 name]

/-- What the status phase leaves behind: a declaration that asks for the same and has
the ready count that was observed. -/
structure Mirrored (key : ObjectKey) (d : Declaration) (count : Int) (s : Store) (written : Bool)
    (after : Store) : Prop where
  declaration : ∃ object other, after.get? key.place = some object ∧
    Declaration.ofResource object = .ok other ∧ SameApplication d other ∧
    other.status.readyReplicas = count ∧
    (written = true → object.dig? ["status", "readyReplicas"] = some (.int count))
  untouched : written = false → after = s
  elsewhere : ∀ at_, (key.place == at_) = false → after.get? at_ = s.get? at_
  failures : after.failures = s.failures
  inOrder : after.InOrder

theorem run_reconcileStatus_of_equal {workload : Option Json} {count : Int}
    (observed : readyReplicas workload = .ok (.int count))
    (equal : count = d.status.readyReplicas) (s : Store) :
    (reconcileStatus d workload).run Store.answer s = (.ok false, s) := by
  have same : (Json.int count).isNumber d.status.readyReplicas = true :=
    (Json.isNumber_int_iff _ _).2 equal
  simp only [reconcileStatus, observed, same, if_true]
  rfl

theorem queries_reconcileStatus_of_equal {workload : Option Json} {count : Int}
    (observed : readyReplicas workload = .ok (.int count))
    (equal : count = d.status.readyReplicas) (s : Store) :
    (reconcileStatus d workload).queries Store.answer s = [] := by
  have same : (Json.int count).isNumber d.status.readyReplicas = true :=
    (Json.isNumber_int_iff _ _).2 equal
  simp only [reconcileStatus, observed, same, if_true]
  rfl

/-- A status phase that goes through has read a count. -/
theorem exists_observed {workload : Option Json} {written : Bool}
    (ran : (reconcileStatus d workload).run Store.answer s = (.ok written, after)) :
    ∃ observed, readyReplicas workload = .ok observed := by
  cases read : readyReplicas workload with
  | ok observed => exact ⟨observed, rfl⟩
  | error fault =>
      simp only [reconcileStatus, read] at ran
      cases ran

/-- The object that a status write sends. -/
def marked (fields own : Fields) (count : Int) : Json :=
  .obj (Fields.set fields "status" (.obj (Fields.set own "readyReplicas" (.int count))))

/-- A status phase that finds another count sends the record that was read with the count
in its status, and the record states the place that it is kept at. -/
theorem exists_marked {workload : Option Json} {count : Int}
    (kept : Store.KeptAt key.place object) (parses : Declaration.ofResource object = .ok d)
    (observed : readyReplicas workload = .ok (.int count))
    (differs : count ≠ d.status.readyReplicas) : ∃ fields metadata own at_,
      object = .obj fields ∧ Fields.get? fields "metadata" = some (.obj metadata) ∧
        Declaration.Reads fields metadata d ∧ Status.ofJson (.obj own) = .ok d.status ∧
        Store.statedPlace .simpleApp (marked fields own count) = .ok at_ ∧
        (at_ == key.place) = true ∧
        ∀ s, (reconcileStatus d workload).run Store.answer s =
          ((s.updateStatus .simpleApp (marked fields own count)).1.map fun _ => true,
            (s.updateStatus .simpleApp (marked fields own count)).2) := by
  obtain ⟨fields, metadata, rfl, has, names⟩ := kept.states
  have reads := (Declaration.ofResource_eq_ok_iff has).1 parses
  obtain ⟨own, status, marks⟩ := Declaration.withReadyReplicas_eq reads has (.int count)
  have beside : (marked fields own count).field? "metadata" =
      (Json.obj fields).field? "metadata" :=
    Fields.get?_set_of_ne fields _ (by decide)
  obtain ⟨at_, stated, agree⟩ := kept.statedPlace_eq (@rfl _ ResourceKind.simpleApp.name)
  refine ⟨fields, metadata, own, at_, rfl, has, reads, status,
    Store.statedPlace_congr beside stated, agree, ?_⟩
  intro s
  have notSame : (Json.int count).isNumber d.status.readyReplicas = false := by
    rw [Bool.eq_false_iff]
    intro same
    exact differs ((Json.isNumber_int_iff _ _).1 same)
  simp only [reconcileStatus, observed, notSame, Bool.false_eq_true, if_false, marks]
  rfl

/-- A status write that goes through leaves the count behind that it was sent with. -/
theorem mirrored_of_updateStatus {own : Fields} {at_ : ObjectPlace} {answer : Json} {count : Int}
    (inOrder : s.InOrder) (stored : s.get? key.place = some (.obj fields))
    (has : Fields.get? fields "metadata" = some (.obj metadata))
    (reads : Declaration.Reads fields metadata d) (status : Status.ofJson (.obj own) = .ok d.status)
    (stated : Store.statedPlace .simpleApp (marked fields own count) = .ok at_)
    (agree : (at_ == key.place) = true)
    (updated : s.updateStatus .simpleApp (marked fields own count) = (.ok answer, after)) :
    Mirrored key d count s true after := by
  obtain ⟨at', found, status', metadata', version, stated', present, sent, has', rfl, wrote⟩ :=
    Store.updateStatus_eq_ok updated
  rw [stated] at stated'
  cases stated'
  rw [Store.get?_congr agree, stored] at present
  cases present
  rw [has] at has'
  cases has'
  rw [marked, Json.fieldOr_obj, Fields.get?_set_self, Option.getD_some] at sent
  cases sent
  have again := reads.marked status count version
  have here := wrote.here
  rw [Store.get?_congr agree] at here
  exact {
    declaration := by
      refine ⟨_, _, here, (Declaration.ofResource_eq_ok_iff
        (Fields.get?_set_self _ _ _)).2 again, ⟨rfl, rfl, rfl, rfl⟩, rfl, ?_⟩
      intro _
      refine Json.dig?_cons_eq_some_iff.2 ⟨_, _, rfl, ?_, Json.dig?_cons_eq_some_iff.2
        ⟨_, _, rfl, Fields.get?_set_self own "readyReplicas" (.int count), rfl⟩⟩
      rw [Fields.get?_set_of_ne _ _ (by decide), Fields.get?_set_self]
    untouched := by
      intro notWritten
      cases notWritten
    elsewhere := by
      intro other different
      refine wrote.elsewhere other ?_
      rw [← different]
      exact BEq.congr_left agree
    failures := wrote.failures
    inOrder := wrote.inOrder inOrder }

/-- A status phase that goes through mirrors the count that was observed. -/
theorem mirrored_of_run {workload : Option Json} {count : Int} {written : Bool}
    (inOrder : s.InOrder) (stored : s.get? key.place = some object)
    (parses : Declaration.ofResource object = .ok d)
    (observed : readyReplicas workload = .ok (.int count))
    (ran : (reconcileStatus d workload).run Store.answer s = (.ok written, after)) :
    Mirrored key d count s written after := by
  by_cases equal : count = d.status.readyReplicas
  · rw [run_reconcileStatus_of_equal observed equal] at ran
    cases ran
    exact {
      declaration := by
        refine ⟨object, d, stored, parses, ⟨rfl, rfl, rfl, rfl⟩, equal.symm, ?_⟩
        intro impossible
        cases impossible
      untouched := fun _ => rfl
      elsewhere := fun _ _ => rfl
      failures := rfl
      inOrder := inOrder }
  · obtain ⟨fields, metadata, own, at_, rfl, has, reads, status, stated, agree, runs⟩ :=
      exists_marked (inOrder _ _ stored) parses observed equal
    rw [runs] at ran
    cases updated : s.updateStatus .simpleApp (marked fields own count) with
    | mk reply behind =>
        rw [updated] at ran
        cases reply with
        | error fault => cases ran
        | ok answer =>
            cases ran
            exact mirrored_of_updateStatus inOrder stored has reads status stated agree updated

/-- Where no failure is arranged, the status phase goes through. -/
theorem exists_run_reconcileStatus {workload : Option Json} {count : Int}
    (inOrder : s.InOrder) (quiet : s.failures = []) (stored : s.get? key.place = some object)
    (parses : Declaration.ofResource object = .ok d)
    (observed : readyReplicas workload = .ok (.int count)) :
    ∃ written after, (reconcileStatus d workload).run Store.answer s = (.ok written, after) := by
  by_cases equal : count = d.status.readyReplicas
  · exact ⟨_, _, run_reconcileStatus_of_equal observed equal s⟩
  · obtain ⟨fields, metadata, own, at_, rfl, has, reads, status, stated, agree, runs⟩ :=
      exists_marked (inOrder _ _ stored) parses observed equal
    have calm := Store.failure?_of_quiet quiet .updateStatus .simpleApp
    have present : s.get? at_ = some (.obj fields) := by
      rw [Store.get?_congr agree, stored]
    obtain ⟨written, after, updated⟩ := Store.updateStatus_of_present stated
      (inOrder _ _ present) calm present (Json.fieldOr_obj _ "status" .null)
    rw [runs, updated]
    exact ⟨_, _, rfl⟩

/-! ## All phases -/

/-- A fault of a phase ends the pass, and otherwise it goes on. -/
def orStop {α : Type} (phase : Phase) (outcomes : Outcomes)
    (next : α → ClientM (Except Fault PassReport)) :
    Except Fault α → ClientM (Except Fault PassReport)
  | .error fault => pure (stopPass phase outcomes fault)
  | .ok value => next value

/-- A pass that a fault ends is no success. -/
theorem not_success_of_stopPass {phase : Phase} {outcomes : Outcomes} {fault : Fault}
    {report : PassReport} (stopped : (stopPass phase outcomes fault, s) = (.ok report, after)) :
    report.success = false := by
  obtain ⟨stopped, -⟩ := Prod.mk.injEq .. ▸ stopped
  unfold stopPass at stopped
  split at stopped
  · cases stopped
    rfl
  · cases stopped

section OrStop

variable {α : Type} {step : ClientM (Except Fault α)} {phase : Phase} {outcomes : Outcomes}
  {next : α → ClientM (Except Fault PassReport)} {value : α} {middle : Store}

/-- What ends the pass on a fault and else goes on with `next` is a phase of it. -/
theorem bind_orStop {then_ : Except Fault α → ClientM (Except Fault PassReport)}
    (stops : ∀ fault, then_ (.error fault) = pure (stopPass phase outcomes fault))
    (goesOn : ∀ value, then_ (.ok value) = next value) :
    step.bind then_ = step.bind (orStop phase outcomes next) := by
  refine congrArg step.bind (funext ?_)
  intro result
  cases result with
  | error fault => exact stops fault
  | ok value => exact goesOn value

theorem run_orStop_of_ok (ran : step.run Store.answer s = (.ok value, middle)) :
    (step.bind (orStop phase outcomes next)).run Store.answer s =
      (next value).run Store.answer middle := by
  rw [Dialogue.run_bind, ran]
  rfl

theorem queries_orStop_of_ok (ran : step.run Store.answer s = (.ok value, middle)) :
    (step.bind (orStop phase outcomes next)).queries Store.answer s =
      step.queries Store.answer s ++ (next value).queries Store.answer middle := by
  rw [Dialogue.queries_bind, ran]
  rfl

/-- A pass that succeeds has got past each of its phases. -/
theorem goes_on_of_success {report : PassReport} (success : report.success = true)
    (ran : (step.bind (orStop phase outcomes next)).run Store.answer s = (.ok report, after)) :
    ∃ value middle, step.run Store.answer s = (.ok value, middle) ∧
      (next value).run Store.answer middle = (.ok report, after) := by
  rw [Dialogue.run_bind] at ran
  cases ended : step.run Store.answer s with
  | mk result middle =>
      rw [ended] at ran
      cases result with
      | error fault =>
          rw [not_success_of_stopPass ran] at success
          cases success
      | ok value => exact ⟨value, middle, rfl, ran⟩

end OrStop

/-- The report of a pass whose phases all went through. -/
def PassReport.ofPhases (workload endpoint route : Ensured) (written : Bool) : PassReport :=
  .succeeded [(ResourceKind.deployment.name, workload.outcome),
    (ResourceKind.service.name, endpoint.outcome),
    (ResourceKind.ingress.name, route.outcome)] written

theorem passFor_eq (d : Declaration) (routeClass : Option String) : passFor d routeClass =
    d.workloadStep.ensure.bind (orStop .ensureWorkload [] fun workload =>
      d.endpointStep.ensure.bind (orStop .ensureEndpoint
        [(ResourceKind.deployment.name, workload.outcome)] fun endpoint =>
          (d.ensureRoute routeClass).bind (orStop .ensureRoute
            [(ResourceKind.deployment.name, workload.outcome),
              (ResourceKind.service.name, endpoint.outcome)] fun route =>
                (reconcileStatus d workload.object).bind (orStop .reconcileStatus
                  [(ResourceKind.deployment.name, workload.outcome),
                    (ResourceKind.service.name, endpoint.outcome),
                    (ResourceKind.ingress.name, route.outcome)] fun written =>
                      pure (.ok (.ofPhases workload endpoint route written)))))) :=
  bind_orStop (fun _ => rfl) fun _ =>
    bind_orStop (fun _ => rfl) fun _ =>
      bind_orStop (fun _ => rfl) fun _ =>
        bind_orStop (fun _ => rfl) fun _ => rfl

/-- What a pass does about what its fetch has found. -/
def passOf (routeClass : Option String) :
    Option Declaration → ClientM (Except Fault PassReport)
  | none => pure (.ok .absent)
  | some d => passFor d routeClass

theorem reconcile_eq (routeClass : Option String) (key : ObjectKey) :
    reconcile routeClass key = (fetch key).bind (orStop .fetch [] (passOf routeClass)) :=
  bind_orStop (fun _ => rfl) fun
    | none => rfl
    | some _ => rfl

/-- The phases after the fetch, each in the store that the one before has left behind. -/
structure PassPhases (d : Declaration) (routeClass : Option String) (s : Store)
    (workload endpoint route : Ensured) (written : Bool) (s₁ s₂ s₃ after : Store) : Prop where
  ensureWorkload : d.workloadStep.ensure.run Store.answer s = (.ok workload, s₁)
  ensureEndpoint : d.endpointStep.ensure.run Store.answer s₁ = (.ok endpoint, s₂)
  ensureRoute : (d.ensureRoute routeClass).run Store.answer s₂ = (.ok route, s₃)
  reconcileStatus : (reconcileStatus d workload.object).run Store.answer s₃ = (.ok written, after)

variable {routeClass : Option String} {workload endpoint route : Ensured} {written : Bool}
  {s₁ s₂ s₃ : Store} {report : PassReport}

theorem run_passFor (phases : PassPhases d routeClass s workload endpoint route written s₁ s₂ s₃
    after) : (passFor d routeClass).run Store.answer s =
      (.ok (.ofPhases workload endpoint route written), after) := by
  rw [passFor_eq, run_orStop_of_ok phases.ensureWorkload, run_orStop_of_ok phases.ensureEndpoint,
    run_orStop_of_ok phases.ensureRoute, run_orStop_of_ok phases.reconcileStatus]
  rfl

theorem queries_passFor (phases : PassPhases d routeClass s workload endpoint route written s₁ s₂
    s₃ after) : (passFor d routeClass).queries Store.answer s =
      d.workloadStep.ensure.queries Store.answer s ++
        (d.endpointStep.ensure.queries Store.answer s₁ ++
          ((d.ensureRoute routeClass).queries Store.answer s₂ ++
            (reconcileStatus d workload.object).queries Store.answer s₃)) := by
  rw [passFor_eq, queries_orStop_of_ok phases.ensureWorkload,
    queries_orStop_of_ok phases.ensureEndpoint, queries_orStop_of_ok phases.ensureRoute,
    queries_orStop_of_ok phases.reconcileStatus]
  simp only [pure, Dialogue.queries, List.append_nil]

/-- A pass that succeeds has gone through all phases. -/
theorem phases_of_success (ran : (passFor d routeClass).run Store.answer s = (.ok report, after))
    (success : report.success = true) : ∃ workload endpoint route written s₁ s₂ s₃,
      PassPhases d routeClass s workload endpoint route written s₁ s₂ s₃ after ∧
        report = .ofPhases workload endpoint route written := by
  rw [passFor_eq] at ran
  obtain ⟨workload, s₁, first, ran⟩ := goes_on_of_success success ran
  obtain ⟨endpoint, s₂, second, ran⟩ := goes_on_of_success success ran
  obtain ⟨route, s₃, third, ran⟩ := goes_on_of_success success ran
  obtain ⟨written, s₄, last, ran⟩ := goes_on_of_success success ran
  cases ran
  exact ⟨workload, endpoint, route, written, s₁, s₂, s₃, ⟨first, second, third, last⟩, rfl⟩

theorem run_reconcile (routeClass : Option String) (key : ObjectKey) (s : Store) :
    (reconcile routeClass key).run Store.answer s =
      (orStop .fetch [] (passOf routeClass) ((fetch key).run Store.answer s).1).run Store.answer
        (readIn key s) := by
  rw [reconcile_eq, Dialogue.run_bind, snd_run_fetch]

theorem queries_reconcile (routeClass : Option String) (key : ObjectKey) (s : Store) :
    (reconcile routeClass key).queries Store.answer s =
      .get .simpleApp key.namespaceName key.name ::
        (orStop .fetch [] (passOf routeClass) ((fetch key).run Store.answer s).1).queries
          Store.answer (readIn key s) := by
  rw [reconcile_eq, Dialogue.queries_bind, snd_run_fetch, queries_fetch, List.singleton_append]

end AppOperator
