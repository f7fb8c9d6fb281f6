import AppOperator.Proofs.Cluster.Records
import AppOperator.Proofs.Reconcile.Positions

/-!
# Interrupted passes

With arranged failures a pass makes the calls that it makes without them, up to the
first one that fails.  A phase reads before it writes and writes once, so that a call
that fails leaves the cluster as it was when its phase began.
-/

set_option autoImplicit false

namespace AppOperator

open Dialogue (run queries)

def ResourceKind.phase (kind : ResourceKind) : Phase :=
  if kind = .deployment then .ensureWorkload
  else if kind = .service then .ensureEndpoint
  else if kind = .ingress then .ensureRoute
  else .fetch

def ClientCall.phase : ClientCall → Phase
  | .updateStatus .. => .reconcileStatus
  | call => call.kind.phase

/-- How many steps a pass has behind it when a phase begins. -/
def Phase.stepsBefore : Phase → Nat
  | .ensureEndpoint => 1
  | .ensureRoute => 2
  | .reconcileStatus => 3
  | _ => 0

namespace Store

variable {s : Store}

/-- No failure is arranged for the call. -/
def Quiet (s : Store) (call : ClientCall) : Prop :=
  s.failure? call.operation call.kind = none

/-- Nothing but errors of the API is arranged, and no read is to find nothing. -/
def OnlyApiErrors (s : Store) : Prop :=
  ∀ operation kind fault, s.failure? operation kind = some fault →
    (∃ error, fault = .api error) ∧ (operation = .get → fault.isNotFound = false)

theorem Quiet.of_failures {t : Store} {call : ClientCall} (quiet : s.Quiet call)
    (same : t.failures = s.failures) : t.Quiet call :=
  (failure?_of_failures same _ _).trans quiet

theorem OnlyApiErrors.of_failures {t : Store} (only : s.OnlyApiErrors)
    (same : t.failures = s.failures) : t.OnlyApiErrors := by
  intro operation kind fault arranged
  rw [failure?_of_failures same] at arranged
  exact only operation kind fault arranged

theorem sameButCalls_of_read {call : ClientCall} (isRead : call.operation = .get) :
    SameButCalls s (s.answer call).2 := by
  cases call with
  | get kind namespaceName name =>
      change SameButCalls s (s.get kind namespaceName name).2
      rw [get_snd]
      exact .record s _ _ _ _
  | create kind object => cases isRead
  | update kind object => cases isRead
  | updateStatus kind object => cases isRead
  | delete kind namespaceName name => cases isRead

end Store

open Store

variable {α : Type} {s : Store}

/-! ## The first call that fails -/

/-- The dialogue makes the calls that it makes without failures up to one for which a failure
is arranged, and the store has the effects of the calls before that one. -/
structure FailsAt (dialogue : ClientM α) (s : Store) (earlier : List ClientCall)
    (call : ClientCall) (later : List ClientCall) (fault : Fault) : Prop where
  undisturbed : dialogue.queries answer s.clearFailures = earlier ++ call :: later
  quiet : ∀ before ∈ earlier, s.Quiet before
  arranged : s.failure? call.operation call.kind = some fault
  calls : dialogue.queries answer s = earlier ++ [call]
  effects : SameButCalls (s.answerAll earlier) (dialogue.run answer s).2

namespace FailsAt

variable {earlier later : List ClientCall} {call : ClientCall} {fault : Fault}

/-- The call that fails has no effect of its own. -/
theorem of_calls {dialogue : ClientM α}
    (undisturbed : dialogue.queries answer s.clearFailures = earlier ++ call :: later)
    (quiet : ∀ before ∈ earlier, s.Quiet before)
    (arranged : s.failure? call.operation call.kind = some fault)
    (calls : dialogue.queries answer s = earlier ++ [call]) :
    FailsAt dialogue s earlier call later fault where
  undisturbed := undisturbed
  quiet := quiet
  arranged := arranged
  calls := calls
  effects := by
    have still : (s.answerAll earlier).failure? call.operation call.kind = some fault := by
      rw [failure?_of_failures (failures_answerAll s earlier), arranged]
    rw [snd_run_eq_answerAll, calls, answerAll_append]
    exact (answer_of_arranged still).1

theorem cons {first : ClientCall} {next : Reply → ClientM α} (quiet : s.Quiet first)
    (fails : FailsAt (next (s.answer first).1) (s.answer first).2 earlier call later fault) :
    FailsAt (.ask first next) s (first :: earlier) call later fault := by
  have failures := (answer_change s first).failures
  have answered := answer_clearFailures first quiet
  refine of_calls ?_ ?_ ?_ ?_
  · simp only [queries, answered, quieted, fails.undisturbed, List.cons_append]
  · intro before among
    rcases List.mem_cons.1 among with rfl | among
    · exact quiet
    · exact (fails.quiet before among).of_failures failures.symm
  · rw [← failure?_of_failures failures]
    exact fails.arranged
  · simp only [queries, fails.calls, List.cons_append]

theorem bind {β : Type} {first : ClientM β} {f : β → ClientM α}
    (quiet : ∀ before ∈ first.queries answer s, s.Quiet before)
    (fails : FailsAt (f (first.run answer s).1) (first.run answer s).2 earlier call later fault) :
    FailsAt (first.bind f) s (first.queries answer s ++ earlier) call later fault := by
  induction first generalizing s with
  | done value => exact fails
  | ask query next ih =>
      have here : s.Quiet query := by
        refine quiet query ?_
        simp [queries]
      have rest : ∀ before ∈ (next (s.answer query).1).queries answer (s.answer query).2,
          (s.answer query).2.Quiet before := by
        intro before among
        refine Quiet.of_failures (quiet before ?_) (answer_change s query).failures
        simp [queries, among]
      exact cons here (ih _ rest fails)

end FailsAt

/-! ## Phases -/

/-- A call of a phase: a fault that it is answered with ends the phase, unless it is a read
that finds nothing, and so does a write in any case. -/
structure EndsOnFault (name : Phase) (call : ClientCall)
    (next : Reply → ClientM (Except Fault α)) : Prop where
  phase : call.phase = name
  fault : ∀ fault, (call.operation = .get → fault.isNotFound = false) →
    next (.error fault) = .done (.error fault)
  write : call.operation ≠ .get → ∀ reply, ∃ result, next reply = .done result

variable {name : Phase} {value : α} {middle : Store}

/-- A call that is answered with the failure arranged for it is the last one of its phase. -/
theorem failsAt_of_refused {call : ClientCall} {next : Reply → ClientM (Except Fault α)}
    {fault : Fault} (ends : EndsOnFault name call next) (only : s.OnlyApiErrors)
    (arranged : s.failure? call.operation call.kind = some fault)
    (refused : (s.answer call).1 = .error fault) : ∃ later,
      FailsAt (.ask call next) s [] call later fault ∧
        (Dialogue.ask call next).run answer s = (.error fault, (s.answer call).2) := by
  have stops : next (s.answer call).1 = .done (.error fault) := by
    rw [refused]
    exact ends.fault fault fun isRead => (only _ _ _ arranged).2 isRead
  refine ⟨_, .of_calls rfl ?_ arranged ?_, ?_⟩
  · intro before among
    cases among
  · simp only [queries, stops, List.nil_append]
  · simp only [run, stops]

/-- What becomes of a phase with arranged failures: none of its calls fails, or the first one
that does ends it, and the store is as it was. -/
theorem quiet_or_failsAt {phase : ClientM (Except Fault α)}
    (ends : phase.Everywhere (EndsOnFault name)) (only : s.OnlyApiErrors)
    (ran : phase.run answer s.clearFailures = (.ok value, middle)) :
    (∀ call ∈ phase.queries answer s, s.Quiet call) ∨
      ∃ earlier call later fault, FailsAt phase s earlier call later fault ∧ call.phase = name ∧
        (phase.run answer s).1 = .error fault ∧ SameButCalls s (phase.run answer s).2 := by
  induction phase generalizing s with
  | done result => exact .inl fun call among => by cases among
  | ask call next ih =>
      cases arranged : s.failure? call.operation call.kind with
      | some fault =>
          obtain ⟨same, refused⟩ := answer_of_arranged arranged
          rcases refused with refused | ⟨isWrite, unstated, always⟩
          · obtain ⟨later, fails, stopped⟩ := failsAt_of_refused ends.1 only arranged refused
            exact .inr ⟨[], call, later, fault, fails, ends.1.phase, by rw [stopped],
              by rw [stopped]; exact same⟩
          · -- a write that states no place is refused without failures too
            have stops := ends.1.fault unstated fun isRead => absurd isRead isWrite
            simp only [run, always s.clearFailures, stops] at ran
            cases ran
      | none =>
          have answered := answer_clearFailures call arranged
          have failures := (answer_change s call).failures
          simp only [run, answered, quieted] at ran
          by_cases isRead : call.operation = .get
          · have same : SameButCalls s (s.answer call).2 := sameButCalls_of_read isRead
            rcases ih _ (ends.2 _) (only.of_failures failures) ran with quiet |
                ⟨earlier, failing, later, fault, fails, phase, ended, untouched⟩
            · left
              intro before among
              rcases List.mem_cons.1 among with rfl | among
              · exact arranged
              · exact (quiet before among).of_failures failures.symm
            · exact .inr ⟨call :: earlier, failing, later, fault, fails.cons arranged, phase, ended,
                same.trans untouched⟩
          · left
            obtain ⟨result, last⟩ := ends.1.write isRead (s.answer call).1
            intro before among
            simp only [queries, last, List.mem_singleton] at among
            rw [among]
            exact arranged

theorem run_of_quiet {phase : ClientM (Except Fault α)}
    (quiet : ∀ call ∈ phase.queries answer s, s.Quiet call)
    (ran : phase.run answer s.clearFailures = (.ok value, middle)) :
    phase.run answer s = (.ok value, (phase.run answer s).2) ∧
      (phase.run answer s).2.clearFailures = middle := by
  rw [run_clearFailures phase s quiet, Prod.mk.injEq] at ran
  exact ⟨Prod.ext ran.1 rfl, ran.2⟩

theorem createDesired_endsOnFault {step : EnsureStep} (named : step.kind.phase = name) :
    step.createDesired.Everywhere (EndsOnFault name) := by
  refine ⟨⟨named, fun fault _ => rfl, fun _ reply => ⟨_, rfl⟩⟩, fun _ => trivial⟩

theorem align_endsOnFault {step : EnsureStep} (named : step.kind.phase = name) (live : Json) :
    (step.align live).Everywhere (EndsOnFault name) := by
  unfold EnsureStep.align
  split
  · trivial
  · trivial
  · split
    · trivial
    · exact ⟨⟨named, fun fault _ => rfl, fun _ reply => ⟨_, rfl⟩⟩, fun _ => trivial⟩

theorem ensure_endsOnFault {step : EnsureStep} (named : step.kind.phase = name) :
    step.ensure.Everywhere (EndsOnFault name) := by
  rw [EnsureStep.ensure_eq]
  refine ⟨⟨named, ?_, ?_⟩, ?_⟩
  · intro fault found
    exact EnsureStep.afterRead_of_fault (found rfl)
  · intro isWrite
    exact absurd rfl isWrite
  · intro reply
    unfold EnsureStep.afterRead
    split
    · trivial
    · exact createDesired_endsOnFault named
    · exact align_endsOnFault named _

theorem ensureRoute_endsOnFault (d : Declaration) (routeClass : Option String) :
    (d.ensureRoute routeClass).Everywhere (EndsOnFault .ensureRoute) := by
  cases routeClass with
  | none => trivial
  | some name => exact ensure_endsOnFault rfl

theorem reconcileStatus_endsOnFault (d : Declaration) (workload : Option Json) :
    (reconcileStatus d workload).Everywhere (EndsOnFault .reconcileStatus) := by
  rcases reconcileStatus_cases d workload with ⟨result, same⟩ | ⟨observed, object, -, same⟩
  · rw [same]
    trivial
  · rw [same]
    exact ⟨⟨rfl, fun fault _ => rfl, fun _ reply => ⟨_, rfl⟩⟩, fun _ => trivial⟩

/-! ## Passes -/

/-- What becomes of a pass with arranged failures, given the report that it makes without and
the states of the cluster between its phases: none of its calls fails, or the first one that
does ends it in one of these states. -/
inductive Course (pass : ClientM (Except Fault PassReport)) (s : Store) (clean : PassReport)
    (stages : List Store) : Prop
  | quiet (quiet : ∀ call ∈ pass.queries answer s, s.Quiet call)
  | fails {earlier later : List ClientCall} {call : ClientCall} {fault : Fault} {stage : Store}
      (fails : FailsAt pass s earlier call later fault)
      (report : (pass.run answer s).1 =
        .ok (.failedIn call.phase (clean.outcomes.take call.phase.stepsBefore) fault))
      (among : stage ∈ stages)
      (untouched : SameButCalls stage (pass.run answer s).2.clearFailures)

section OrStop

variable {phase : ClientM (Except Fault α)} {outcomes : Outcomes}
  {next : α → ClientM (Except Fault PassReport)} {clean : PassReport} {stages : List Store}
  {earlier later : List ClientCall} {call : ClientCall} {fault : Fault}

theorem FailsAt.orStop (fails : FailsAt phase s earlier call later fault)
    (ended : (phase.run answer s).1 = .error fault) :
    ∃ later', FailsAt (phase.bind (orStop name outcomes next)) s earlier call later' fault := by
  have undisturbed := Dialogue.queries_bind answer phase
    (AppOperator.orStop name outcomes next) s.clearFailures
  rw [fails.undisturbed, List.append_assoc, List.cons_append] at undisturbed
  refine ⟨_, of_calls undisturbed fails.quiet fails.arranged ?_⟩
  rw [Dialogue.queries_bind, fails.calls, ended]
  exact List.append_nil _

theorem course_orStop (ends : phase.Everywhere (EndsOnFault name)) (only : s.OnlyApiErrors)
    (ran : phase.run answer s.clearFailures = (.ok value, middle))
    (done : clean.outcomes.take name.stepsBefore = outcomes)
    (goesOn : ∀ s', s'.failures = s.failures → s'.clearFailures = middle →
      Course (next value) s' clean stages) :
    Course (phase.bind (orStop name outcomes next)) s clean (s.clearFailures :: stages) := by
  rcases quiet_or_failsAt ends only ran with quiet |
      ⟨earlier, call, later, fault, fails, rfl, ended, untouched⟩
  · obtain ⟨runs, cleared⟩ := run_of_quiet quiet ran
    have failures := run_failures phase s
    have whole : (phase.bind (orStop name outcomes next)).run answer s =
        (next value).run answer (phase.run answer s).2 := run_orStop_of_ok runs
    cases goesOn (phase.run answer s).2 failures cleared with
    | quiet later =>
        refine .quiet ?_
        intro call among
        rw [queries_orStop_of_ok runs] at among
        rcases List.mem_append.1 among with among | among
        · exact quiet call among
        · exact (later call among).of_failures failures.symm
    | @fails earlier later call fault stage fails report among untouched =>
        have behind : FailsAt (orStop name outcomes next (phase.run answer s).1)
            (phase.run answer s).2 earlier call later fault := by
          rw [runs]
          exact fails
        refine .fails (behind.bind quiet) ?_ (List.mem_cons_of_mem _ among) ?_
        · rw [whole]
          exact report
        · rw [whole]
          exact untouched
  · obtain ⟨later', stopped⟩ := fails.orStop ended
    have ran : (phase.bind (orStop call.phase outcomes next)).run answer s =
        (stopPass call.phase outcomes fault, (phase.run answer s).2) := by
      rw [Dialogue.run_bind, ended]
      rfl
    obtain ⟨⟨error, rfl⟩, -⟩ := only _ _ _ fails.arranged
    refine .fails stopped ?_ (List.mem_cons_self ..) ?_
    · rw [ran, done]
      rfl
    · rw [ran]
      exact untouched.clearFailures

end OrStop

variable {d : Declaration} {routeClass : Option String} {workload endpoint route : Ensured}
  {written : Bool} {s₁ s₂ s₃ after : Store}

theorem course_passFor (only : s.OnlyApiErrors) (phases : PassPhases d routeClass s.clearFailures
      workload endpoint route written s₁ s₂ s₃ after) :
    Course (passFor d routeClass) s (.ofPhases workload endpoint route written)
      [s.clearFailures, s₁, s₂, s₃] := by
  rw [passFor_eq]
  refine course_orStop (ensure_endsOnFault rfl) only phases.ensureWorkload rfl ?_
  rintro s' failures rfl
  have only₁ := only.of_failures failures
  refine course_orStop (ensure_endsOnFault rfl) only₁ phases.ensureEndpoint rfl ?_
  rintro s' failures rfl
  have only₂ := only₁.of_failures failures
  refine course_orStop (ensureRoute_endsOnFault d routeClass) only₂ phases.ensureRoute rfl ?_
  rintro s' failures rfl
  have only₃ := only₂.of_failures failures
  refine course_orStop (reconcileStatus_endsOnFault d workload.object) only₃
    phases.reconcileStatus rfl ?_
  intro s' failures cleared
  exact .quiet fun call among => by cases among

/-- A fetch that meets a failure ends the pass. -/
theorem course_of_refused_fetch {key : ObjectKey} {clean : PassReport} {stages : List Store}
    {fault : Fault} (only : s.OnlyApiErrors) (arranged : s.failure? .get .simpleApp = some fault) :
    Course (reconcile routeClass key) s clean (s.clearFailures :: stages) := by
  have calls := queries_reconcile routeClass key s
  have refused : (s.get .simpleApp key.namespaceName key.name).1 = .error fault := by
    rw [get_fst, arranged]
  obtain ⟨⟨error, rfl⟩, notMissing⟩ := only _ _ _ arranged
  have fetched : ((fetch key).run answer s).1 = .error (.api error) := by
    simp only [run_fetch, refused, notMissing rfl, Bool.false_eq_true, if_false]
  have ran : (reconcile routeClass key).run answer s =
      (.ok (.failedIn .fetch [] (.api error)), readIn key s) := by
    rw [run_reconcile, fetched]
    rfl
  rw [fetched] at calls
  have fails : FailsAt (reconcile routeClass key) s []
      (.get .simpleApp key.namespaceName key.name) _ (.api error) :=
    .of_calls (queries_reconcile routeClass key s.clearFailures) (fun _ among => by cases among)
      arranged calls
  refine .fails fails ?_ (List.mem_cons_self ..) ?_
  · rw [ran]
    rfl
  · rw [ran]
    exact (SameButCalls.record s _ _ _ _).clearFailures

/-- The course of a whole pass: its first call fails, or it goes on with what the fetch has
found. -/
theorem course_reconcile {key : ObjectKey} {clean : PassReport} {stages : List Store}
    (only : s.OnlyApiErrors)
    (goesOn : s.failure? .get .simpleApp = none →
      Course (orStop .fetch [] (passOf routeClass) ((fetch key).run answer s).1) (readIn key s)
        clean stages) :
    Course (reconcile routeClass key) s clean (s.clearFailures :: stages) := by
  cases arranged : s.failure? .get .simpleApp with
  | some fault => exact course_of_refused_fetch only arranged
  | none =>
      have quiet : ∀ call ∈ (fetch key).queries answer s, s.Quiet call := by
        intro call among
        rw [queries_fetch, List.mem_singleton] at among
        rw [among]
        exact arranged
      have ran := run_reconcile routeClass key s
      rw [← snd_run_fetch] at ran
      cases goesOn arranged with
      | quiet later =>
          refine .quiet ?_
          intro call among
          rw [queries_reconcile] at among
          rcases List.mem_cons.1 among with rfl | among
          · exact arranged
          · exact later call among
      | @fails earlier later call fault stage fails report among untouched =>
          rw [← snd_run_fetch] at fails report untouched
          have whole := fails.bind quiet
          rw [← reconcile_eq] at whole
          refine .fails whole ?_ (List.mem_cons_of_mem _ among) ?_
          · rw [ran]
            exact report
          · rw [ran]
            exact untouched

end AppOperator
