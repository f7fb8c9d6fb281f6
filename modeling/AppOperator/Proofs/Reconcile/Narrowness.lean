import AppOperator.Proofs.Json.Places
import AppOperator.Proofs.Reconcile.Positions

/-!
# Narrow edits and single writes

A step edits a live object within the places that it owns, and an edit that goes through leaves
nothing of them wrong.  It reads once and writes at most once, the whole edit or nothing, so that
its object is as it was or as the step wants it.
-/

set_option autoImplicit false

namespace AppOperator

open Dialogue (run queries)

/-- The places in an object that the step of a phase writes. -/
def Phase.owned : Phase → List Json.Place
  | .ensureWorkload =>
      [[.field "spec", .field "replicas"],
        [.field "spec", .field "template", .field "spec", .field "containers", .item 0,
          .field "image"]]
  | .ensureEndpoint => [[.field "spec", .field "ports"]]
  | .ensureRoute => [[.field "spec", .field "ingressClassName"]]
  | _ => []

/-! ## Edits -/

section Edits

open Json (EditedWithin)

variable {live edited value : Json} {name : String}

theorem WorkloadStep.within_of_applyDiff {replicas : Int} {image : String}
    (edit : applyDiff replicas image live = ⟨edited, none⟩) :
    EditedWithin Phase.ensureWorkload.owned live edited := by
  simp only [applyDiff, Edited.andThen_eq_ok_iff, Edited.start] at edit
  obtain ⟨scaled, ⟨start, same, scales⟩, images⟩ := edit
  cases same
  have first : EditedWithin [[.field "spec", .field "replicas"]] live scaled :=
    .of_changeEntry scales fun _ _ => .of_assign
  have second : EditedWithin [[.field "spec", .field "template", .field "spec",
      .field "containers", .item 0, .field "image"]] scaled edited := by
    refine .of_changeEntry images fun _ _ inSpec => ?_
    refine .of_changeEntry inSpec fun _ _ inTemplate => ?_
    refine .of_changeEntry inTemplate fun _ _ inInstances => ?_
    refine .of_changeEntry inInstances fun _ _ inContainers => ?_
    exact .of_changeFirst inContainers fun _ _ => .of_assign
  exact (first.mono (by simp [Phase.owned])).trans (second.mono (by simp [Phase.owned]))

theorem Edited.within_of_sectionField (edit : sectionField name value live = ⟨edited, none⟩) :
    EditedWithin [[.field "spec", .field name]] live edited := by
  obtain ⟨start, same, changed⟩ := andThen_eq_ok_iff.mp edit
  cases same
  exact .of_changeEntryOrNew changed fun _ _ => .of_assign

end Edits

namespace EnsureStep

variable {step : EnsureStep} {aligned : Json → Bool} {live edited : Json} {fault : Fault}
  {reply : Reply}

theorem within_of_applyDiff {d : Declaration} {routeClass : Option String}
    (among : step ∈ d.steps routeClass) (edit : step.applyDiff live = ⟨edited, none⟩) :
    Json.EditedWithin step.phase.owned live edited := by
  rcases Declaration.mem_steps_iff.mp among with rfl | rfl | ⟨name, -, rfl⟩
  · exact WorkloadStep.within_of_applyDiff edit
  · exact Edited.within_of_sectionField edit
  · exact Edited.within_of_sectionField edit

/-! ## Reads and writes -/

/-- A write that a step may make on account of the answer to its read. -/
inductive Follows (step : EnsureStep) (reply : Reply) : ClientCall → Prop where
  | create (missing : liveOf reply = .ok none) : Follows step reply (.create step.kind step.desired)
  | update {live edited : Json} {changed : List String} (found : reply = .ok live)
      (differs : step.diff live = .ok changed) (drifted : changed ≠ [])
      (edit : step.applyDiff live = ⟨edited, none⟩) : Follows step reply (.update step.kind edited)

/-- A live object cannot be compared, or it differs and cannot be edited. -/
def FailsOn (step : EnsureStep) (live : Json) (fault : Fault) : Prop :=
  step.diff live = .error fault ∨
    ∃ changed, step.diff live = .ok changed ∧ changed ≠ [] ∧ (step.applyDiff live).fault = some fault

theorem liveOf_of_record (found : reply = .ok live) (notNull : live ≠ .null) :
    liveOf reply = .ok (some live) := by
  subst found
  cases live with
  | null => exact absurd rfl notNull
  | _ => rfl

theorem eq_ok_of_liveOf (found : liveOf reply = .ok (some live)) : reply = .ok live := by
  unfold liveOf at found
  split at found
  · cases found
  · cases found
    rfl
  · split at found <;> cases found

theorem align_of_failsOn (fails : step.FailsOn live fault) :
    step.align live = .done (.error fault) := by
  rcases fails with differs | ⟨changed, differs, drifted, edit⟩
  · simp only [align, differs]
  · obtain ⟨partly, stops⟩ : ∃ partly, step.applyDiff live = ⟨partly, some fault⟩ :=
      ⟨(step.applyDiff live).live, by rw [← edit]⟩
    cases changed with
    | nil => exact absurd rfl drifted
    | cons name rest => simp only [align, differs, stops]

theorem afterRead_writes_once {σ : Type} (step : EnsureStep) (reply : Reply)
    (answer : σ → ClientCall → Reply × σ) (state : σ) :
    ((step.afterRead reply).queries answer state).length ≤ 1 ∧
      ∀ call ∈ (step.afterRead reply).queries answer state, step.Follows reply call := by
  unfold afterRead
  split
  · exact ⟨by simp [queries], by simp [queries]⟩
  · next missing =>
      refine ⟨Nat.le_refl 1, ?_⟩
      rintro _ ⟨⟩
      · exact .create missing
      · contradiction
  · next live found =>
      have found := eq_ok_of_liveOf found
      unfold align
      split
      · exact ⟨by simp [queries], by simp [queries]⟩
      · exact ⟨by simp [queries], by simp [queries]⟩
      · next changed drifted differs =>
          split
          · exact ⟨by simp [queries], by simp [queries]⟩
          · next edited edit =>
              refine ⟨Nat.le_refl 1, ?_⟩
              rintro _ ⟨⟩
              · exact .update found differs drifted edit
              · contradiction

end EnsureStep

/-! ## What is stored -/

namespace Store

variable {s after : Store} {kind : ResourceKind} {object : Json} {fault : Fault}

theorem objects_of_refused_create (refused : s.create kind object = (.error fault, after)) :
    after.objects = s.objects := by
  unfold create at refused
  split at refused
  · cases refused
    rfl
  · next at_ stated =>
      revert refused
      refine answering_cases (P := fun result => result = (.error fault, after) →
        after.objects = s.objects) ?_ ?_
      · rintro fault ⟨⟩
        rfl
      · intro quiet usable_
        split
        · rintro ⟨⟩
          rfl
        · obtain ⟨written, seeded, -⟩ := seed_of_stated
            (s := s.record .create kind at_.namespaceName at_.name) stated usable_
          rw [seeded]
          rintro ⟨⟩

theorem objects_of_refused_update (refused : s.update kind object = (.error fault, after)) :
    after.objects = s.objects := by
  unfold update at refused
  split at refused
  · cases refused
    rfl
  · revert refused
    refine answering_cases (P := fun result => result = (.error fault, after) →
      after.objects = s.objects) ?_ ?_
    · rintro fault ⟨⟩
      rfl
    · intro quiet usable_
      split
      · rintro ⟨⟩
        rfl
      · dsimp only
        split
        · rintro ⟨⟩
          rfl
        · rintro ⟨⟩
          rfl
        · split
          · rintro ⟨⟩
            rfl
          · rintro ⟨⟩

end Store

namespace EnsureStep

variable {step : EnsureStep} {aligned : Json → Bool} {s after : Store} {live : Json} {fault : Fault}
  {result : Except Fault Ensured}

/-- The object of a step is as it was, or the step finds nothing wrong with it. -/
def KeptOrConverged (step : EnsureStep) (s after : Store) : Prop :=
  after.get? step.place = s.get? step.place ∨
    ∃ object, after.get? step.place = some object ∧ step.diff object = .ok []

theorem keptOrConverged_of_objects (same : after.objects = s.objects) :
    step.KeptOrConverged s after :=
  .inl (Store.get?_of_objects same step.place)

theorem keptOrConverged_of_createDesired (lawful : step.Lawful aligned)
    (ran : step.createDesired.run Store.answer s = (result, after)) :
    step.KeptOrConverged s after := by
  rw [run_createDesired] at ran
  cases created : s.create step.kind step.desired with
  | mk reply behind =>
      rw [created] at ran
      cases ran
      cases reply with
      | error fault => exact keptOrConverged_of_objects (Store.objects_of_refused_create created)
      | ok object =>
          obtain ⟨at_, stated, -, -, wrote, beside⟩ := Store.create_eq_ok created
          cases stated.symm.trans lawful.stated
          refine .inr ⟨object, wrote.here, (lawful.diff_eq_nil_iff object).mpr ?_⟩
          rw [lawful.congr object step.desired (beside "spec" (by decide))]
          exact lawful.desired

theorem keptOrConverged_of_update {edited : Json} {reply : Reply} (lawful : step.Lawful aligned)
    (edit : step.applyDiff live = ⟨edited, none⟩)
    (updated : s.update step.kind edited = (reply, after)) : step.KeptOrConverged s after := by
  cases reply with
  | error fault => exact keptOrConverged_of_objects (Store.objects_of_refused_update updated)
  | ok object =>
      obtain ⟨at_, old, -, -, -, wrote, beside⟩ := Store.update_eq_ok updated
      -- an object that states another place than the one it was read from is written there
      cases here : at_ == step.place with
      | false => exact .inl (wrote.elsewhere step.place here)
      | true =>
          refine .inr ⟨object, ?_, (lawful.diff_eq_nil_iff object).mpr ?_⟩
          · rw [← Store.get?_congr here, wrote.here]
          · rw [lawful.congr object edited (beside "spec" (by decide))]
            exact (lawful.applied live edited edit).1

theorem keptOrConverged_of_align (lawful : step.Lawful aligned)
    (ran : (step.align live).run Store.answer s = (result, after)) :
    step.KeptOrConverged s after := by
  unfold align at ran
  split at ran
  · cases ran
    exact keptOrConverged_of_objects rfl
  · cases ran
    exact keptOrConverged_of_objects rfl
  · split at ran
    · cases ran
      exact keptOrConverged_of_objects rfl
    · next edited edit =>
        cases updated : s.update step.kind edited with
        | mk reply behind =>
            have answered : Store.answer s (.update step.kind edited) = (reply, behind) := updated
            simp only [run, answered] at ran
            cases ran
            exact keptOrConverged_of_update lawful edit updated

theorem keptOrConverged (lawful : step.Lawful aligned)
    (ran : step.ensure.run Store.answer s = (result, after)) : step.KeptOrConverged s after := by
  have read : ∀ {state : Store}, step.KeptOrConverged (step.readIn s) state →
      step.KeptOrConverged s state := id
  rw [run_ensure] at ran
  split at ran
  · cases ran
    exact keptOrConverged_of_objects rfl
  · exact read (keptOrConverged_of_createDesired lawful ran)
  · exact read (keptOrConverged_of_align lawful ran)

/-- A step that fails on its object leaves all objects as they are. -/
theorem objects_of_failsOn (lawful : step.Lawful aligned) (found : s.get? step.place = some live)
    (fails : step.FailsOn live fault) (ran : step.ensure.run Store.answer s = (result, after)) :
    (∃ fault, result = .error fault) ∧ after.objects = s.objects := by
  rw [run_ensure] at ran
  split at ran
  · next fault _ =>
      cases ran
      exact ⟨⟨fault, rfl⟩, rfl⟩
  · -- a read that is refused as if nothing were there leads to a create, which is refused too
    rw [run_createDesired] at ran
    cases created : (step.readIn s).create step.kind step.desired with
    | mk reply behind =>
        rw [created] at ran
        cases ran
        cases reply with
        | error fault =>
            have objects := Store.objects_of_refused_create created
            exact ⟨⟨fault, rfl⟩, objects⟩
        | ok object =>
            obtain ⟨at_, stated, -, absent, -⟩ := Store.create_eq_ok created
            cases stated.symm.trans lawful.stated
            cases absent.symm.trans found
  · next other isRead =>
      obtain ⟨-, -, present⟩ := Store.get_eq_ok_iff.mp (eq_ok_of_liveOf isRead)
      cases present.symm.trans found
      rw [align_of_failsOn fails] at ran
      cases ran
      exact ⟨⟨fault, rfl⟩, rfl⟩

end EnsureStep

/-- An edit of a step that goes through leaves nothing wrong and changes nothing aside from what
the step owns.  Whoever answers, a step makes one read and at most one write, and none if the
object that it has read cannot be compared or edited.  In a cluster the object of a step stays as
it was or is as the step wants it. -/
theorem steps_are_narrow_and_whole (d : Declaration) (routeClass : Option String)
    (step : EnsureStep) (among : step ∈ d.steps routeClass) :
    (∀ live edited, step.applyDiff live = ⟨edited, none⟩ →
      step.diff edited = .ok [] ∧ Json.EditedWithin step.phase.owned live edited) ∧
    (∀ {σ : Type} (answer : σ → ClientCall → Reply × σ) (state : σ),
      (∃ writes, step.ensure.queries answer state = step.read :: writes ∧ writes.length ≤ 1 ∧
        ∀ call ∈ writes, step.Follows (answer state step.read).1 call) ∧
      ∀ live fault, (answer state step.read).1 = .ok live → live ≠ .null →
        step.FailsOn live fault →
          step.ensure.run answer state = (.error fault, (answer state step.read).2) ∧
            step.ensure.queries answer state = [step.read]) ∧
    ∀ (s after : Store) (result : Except Fault Ensured),
      step.ensure.run Store.answer s = (result, after) →
        step.KeptOrConverged s after ∧
        ∀ live fault, s.get? step.place = some live → step.FailsOn live fault →
          (∃ fault, result = .error fault) ∧ after.objects = s.objects := by
  obtain ⟨aligned, lawful⟩ := Declaration.lawful_of_mem among
  refine ⟨?_, ?_, ?_⟩
  · intro live edited edit
    obtain ⟨nowAligned, -⟩ := lawful.applied live edited edit
    exact ⟨(lawful.diff_eq_nil_iff edited).mpr nowAligned, EnsureStep.within_of_applyDiff among edit⟩
  · intro σ answer state
    obtain ⟨atMostOne, follows⟩ := EnsureStep.afterRead_writes_once step
      (answer state step.read).1 answer (answer state step.read).2
    refine ⟨⟨_, rfl, atMostOne, follows⟩, ?_⟩
    intro live fault isRead notNull fails
    have stops : step.afterRead (answer state step.read).1 = .done (.error fault) := by
      rw [EnsureStep.afterRead, EnsureStep.liveOf_of_record isRead notNull]
      exact EnsureStep.align_of_failsOn fails
    constructor
    · change (step.afterRead (answer state step.read).1).run answer _ = _
      rw [stops]
      rfl
    · change step.read :: (step.afterRead (answer state step.read).1).queries answer _ = _
      rw [stops]
      rfl
  · intro s after result ran
    exact ⟨EnsureStep.keptOrConverged lawful ran,
      fun live fault found fails => EnsureStep.objects_of_failsOn lawful found fails ran⟩

/-- A workload with a second container and a pause is brought in line; one without a template can
be compared but not edited, and is not written. -/
theorem steps_are_narrow_and_whole_for_workloads :
    let d : Declaration := ⟨"web", "default", "uid-1", none, ⟨"nginx:2", 3, 80, 80⟩, ⟨0, none⟩, []⟩
    let sidecar : Json := .obj [("name", .str "log"), ("image", .str "log:1")]
    let live : Json := .obj [("metadata", .obj [("name", .str "web")]), ("spec", .obj
      [("replicas", .int 1), ("paused", .bool true), ("template", .obj [("spec", .obj
        [("containers", .arr [.obj [("image", .str "nginx:1")], sidecar])])])])]
    let half : Json := .obj [("metadata", .obj [("name", .str "web")]), ("spec", .obj
      [("replicas", .int 1)])]
    d.workloadStep ∈ d.steps none ∧
      (∃ edited, d.workloadStep.applyDiff live = ⟨edited, none⟩ ∧
        d.workloadStep.diff edited = .ok [] ∧
        edited.at? [.field "spec", .field "paused"] = some (.bool true) ∧
        edited.at? [.field "spec", .field "template", .field "spec", .field "containers",
          .item 1] = some sidecar) ∧
      (∃ changed, d.workloadStep.diff half = .ok changed ∧ changed = ["replicas", "image"]) ∧
      d.workloadStep.ensure.queries (fun _ _ => (.ok half, ())) () = [d.workloadStep.read] ∧
      ∃ fault, (d.workloadStep.ensure.run (fun _ _ => (.ok half, ())) ()).1 = .error fault := by
  intro d sidecar live half
  have among : d.workloadStep ∈ d.steps none := by simp [Declaration.steps]
  obtain ⟨edits, anyAnswerer, -⟩ := steps_are_narrow_and_whole d none d.workloadStep among
  obtain ⟨edited, edit⟩ : ∃ edited, d.workloadStep.applyDiff live = ⟨edited, none⟩ := ⟨_, rfl⟩
  obtain ⟨converged, within⟩ := edits live edited edit
  have differs : d.workloadStep.diff half = .ok ["replicas", "image"] := rfl
  have fails : d.workloadStep.FailsOn half (.missingField "template") :=
    .inr ⟨_, differs, List.cons_ne_nil _ _, rfl⟩
  obtain ⟨-, stops⟩ := anyAnswerer (fun _ _ => (.ok half, ())) ()
  obtain ⟨ran, asked⟩ := stops half _ rfl (by simp [half]) fails
  refine ⟨among, ⟨edited, edit, converged, ?_, ?_⟩, ⟨_, differs, rfl⟩, asked, _,
    congrArg Prod.fst ran⟩
  · exact (within.aside _ (by decide)).trans rfl
  · exact (within.aside _ (by decide)).trans rfl

end AppOperator
