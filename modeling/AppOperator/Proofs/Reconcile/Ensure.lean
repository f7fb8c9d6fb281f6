import AppOperator.Proofs.Reconcile.Steps
import AppOperator.Reconcile.Pass

/-!
# What an ensure step does to a cluster

A step that goes through leaves an aligned object at its place and everything
else as it was (`EnsureStep.Ensures`).  A step that finds an aligned object only
reads, and a step goes through where no failure is arranged and the live object
can be compared and edited.
-/

set_option autoImplicit false

namespace AppOperator

/-- What a step does about an object, given which objects are aligned. -/
def Outcome.expected (aligned : Json → Bool) : Option Json → Outcome
  | none => .created
  | some live => if aligned live then .unchanged else .updated

namespace Store

variable {s after : Store} {at_ other : ObjectPlace} {kind : ResourceKind}
  {object written : Json}

theorem statedPlace_congr {live : Json} (same : object.field? "metadata" = live.field? "metadata")
    (stated : statedPlace kind live = .ok at_) : statedPlace kind object = .ok at_ := by
  obtain ⟨fields, metadata, name, rfl, has, named, rfl⟩ := statedPlace_eq_ok_iff.1 stated
  have found : object.field? "metadata" = some (.obj metadata) := by
    rw [same]
    exact has
  obtain ⟨own, rfl, has'⟩ := Json.field?_eq_some_iff.1 found
  exact statedPlace_eq_ok_iff.2 ⟨own, metadata, name, rfl, has', named, rfl⟩

/-- An object kept under texts states exactly these. -/
theorem KeptAt.statedPlace_ofTexts {namespaceName name : String}
    (kept : KeptAt (.ofTexts kind namespaceName name) object) :
    statedPlace kind object = .ok (.ofTexts kind namespaceName name) := by
  obtain ⟨own, stated, agree⟩ := kept.statedPlace_eq (@rfl _ kind.name)
  obtain ⟨sameKind, sameNamespace, sameName⟩ := (ObjectPlace.beq_iff _ _).1 agree
  obtain ⟨ownKind, ownNamespace, ownName⟩ := own
  obtain rfl := (Json.keyForm_eq_str_iff namespaceName).1 sameNamespace
  obtain rfl := (Json.keyForm_eq_str_iff name).1 sameName
  cases sameKind
  exact stated

/-- A stored object counts as an answer. -/
theorem KeptAt.orElse_eq (kept : KeptAt at_ object) (default : Json) :
    object.orElse default = object := by
  obtain ⟨fields, metadata, rfl, has, -⟩ := kept.states
  exact Json.orElse_of_field? (Json.field?_eq_some_iff.2 ⟨fields, rfl, has⟩) default

theorem KeptAt.isRecord (kept : KeptAt at_ object) : object.IsRecord := by
  obtain ⟨fields, metadata, same, -⟩ := kept.states
  exact ⟨fields, same⟩

end Store

namespace EnsureStep

/-- What a step that goes through has found and leaves behind. -/
structure Ensures (step : EnsureStep) (aligned : Json → Bool) (s : Store) (result : Ensured)
    (object : Json) (after : Store) : Prop where
  reported : result.object = some object
  outcome : result.outcome = .expected aligned (s.get? step.place)
  stored : after.get? step.place = some object
  aligned : aligned object = true
  kept : ∀ name, name ≠ "spec" → name ≠ "metadata" →
    object.field? name = ((s.get? step.place).getD step.desired).field? name
  elsewhere : ∀ other, (step.place == other) = false → after.get? other = s.get? other
  failures : after.failures = s.failures
  readable : s.failure? .get step.kind = none
  inOrder : after.InOrder

variable {step : EnsureStep} {aligned : Json → Bool} {s after : Store} {result : Ensured}
  {live : Json}

/-- The store in which a step has read its object. -/
def readIn (step : EnsureStep) (s : Store) : Store :=
  s.record .get step.kind (.str step.namespaceName) (.str step.objectName)

theorem run_ensure (step : EnsureStep) (s : Store) : step.ensure.run Store.answer s =
    (match liveOf (s.get step.kind (.str step.namespaceName) (.str step.objectName)).1 with
      | .error fault => .done (.error fault)
      | .ok none => step.createDesired
      | .ok (some live) => step.align live : ClientM _).run Store.answer (step.readIn s) := by
  unfold readIn
  rw [← Store.get_snd]
  rfl

/-- A step that finds its object aligns it. -/
theorem run_ensure_of_found (inOrder : s.InOrder) (readable : s.failure? .get step.kind = none)
    (found : s.get? step.place = some live) : step.ensure.run Store.answer s =
      (step.align live).run Store.answer (step.readIn s) := by
  have read : (s.get step.kind (.str step.namespaceName) (.str step.objectName)).1 = .ok live :=
    Store.get_eq_ok_iff.2 ⟨readable, rfl, found⟩
  obtain ⟨fields, rfl⟩ := (inOrder _ _ found).isRecord
  rw [run_ensure, read]
  rfl

/-- A step that finds no object creates it. -/
theorem run_ensure_of_absent (readable : s.failure? .get step.kind = none)
    (absent : s.get? step.place = none) : step.ensure.run Store.answer s =
      step.createDesired.run Store.answer (step.readIn s) := by
  obtain ⟨error, read, missing⟩ := Store.get_of_absent readable
    (Store.usable_ofTexts step.kind step.namespaceName step.objectName) absent
  have nothing : liveOf (.error (.api error)) = .ok none := by
    simp only [liveOf, Fault.isNotFound, missing, if_true]
  rw [run_ensure, read, nothing]

/-- A read that a step gets past has found an object or none. -/
theorem readable_of_run (sound : ∀ fault, s.failure? .get step.kind = some fault →
      fault.isNotFound = false)
    (ran : step.ensure.run Store.answer s = (.ok result, after)) :
    s.failure? .get step.kind = none := by
  cases arranged : s.failure? .get step.kind with
  | none => rfl
  | some fault =>
      have read : (s.get step.kind (.str step.namespaceName) (.str step.objectName)).1 =
          .error fault := by
        rw [Store.get_fst, arranged]
      have failing : liveOf (.error fault) = .error fault := by
        simp only [liveOf, sound fault arranged, Bool.false_eq_true, if_false]
      rw [run_ensure, read, failing] at ran
      cases ran

/-! ## Creating and aligning -/

theorem run_createDesired (step : EnsureStep) (s : Store) :
    step.createDesired.run Store.answer s =
      ((s.create step.kind step.desired).1.map fun created =>
          ⟨.created, some (created.orElse step.desired), []⟩,
        (s.create step.kind step.desired).2) := rfl

/-- What a step that has created its object leaves behind. -/
theorem ensures_of_createDesired (lawful : step.Lawful aligned) (inOrder : s.InOrder)
    (readable : s.failure? .get step.kind = none) (absent : s.get? step.place = none)
    (ran : step.createDesired.run Store.answer (step.readIn s) = (.ok result, after)) :
    ∃ object, step.Ensures aligned s result object after := by
  rw [run_createDesired] at ran
  cases created : (step.readIn s).create step.kind step.desired with
  | mk reply behind =>
      cases reply with
      | error fault =>
          rw [created] at ran
          cases ran
      | ok object =>
          obtain ⟨at_, stated, -, -, wrote, beside⟩ := Store.create_eq_ok created
          rw [lawful.stated] at stated
          cases stated
          have ordered : behind.InOrder := wrote.inOrder (inOrder.of_objects rfl)
          have answered := (ordered _ _ wrote.here).orElse_eq step.desired
          have sameSpec := lawful.congr object step.desired (beside "spec" (by decide))
          rw [created] at ran
          cases ran
          exact ⟨object, {
            reported := congrArg some answered
            outcome := by rw [absent]; rfl
            stored := wrote.here
            aligned := sameSpec.trans lawful.desired
            kept := by
              intro name _ notMetadata
              rw [absent, Option.getD_none]
              exact beside name notMetadata
            elsewhere := wrote.elsewhere
            failures := wrote.failures
            readable := readable
            inOrder := ordered }⟩

/-- What a step that has written its edits back leaves behind. -/
theorem ensures_of_updated {edited object : Json} {behind : Store} {changed : List String}
    (lawful : step.Lawful aligned) (inOrder : s.InOrder)
    (readable : s.failure? .get step.kind = none) (found : s.get? step.place = some live)
    (drifted : aligned live = false) (edit : step.applyDiff live = ⟨edited, none⟩)
    (updated : (step.readIn s).update step.kind edited = (.ok object, behind)) :
    step.Ensures aligned s ⟨.updated, some (object.orElse edited), changed⟩ object behind := by
  obtain ⟨nowAligned, besideSpec⟩ := lawful.applied live edited edit
  have stated : Store.statedPlace step.kind edited = .ok step.place :=
    Store.statedPlace_congr (besideSpec "metadata" (by decide))
      (inOrder _ _ found).statedPlace_ofTexts
  obtain ⟨at_, old, own, -, -, wrote, beside⟩ := Store.update_eq_ok updated
  rw [stated] at own
  cases own
  have ordered : behind.InOrder := wrote.inOrder (inOrder.of_objects rfl)
  have current := (ordered _ _ wrote.here).orElse_eq edited
  have sameSpec := lawful.congr object edited (beside "spec" (by decide))
  exact {
    reported := congrArg some current
    outcome := by
      rw [found]
      simp only [Outcome.expected, drifted]
      rfl
    stored := wrote.here
    aligned := sameSpec.trans nowAligned
    kept := by
      intro name notSpec notMetadata
      rw [found, Option.getD_some, beside name notMetadata, besideSpec name notSpec]
    elsewhere := wrote.elsewhere
    failures := wrote.failures
    readable := readable
    inOrder := ordered }

/-- What a step that finds nothing to change leaves behind. -/
theorem ensures_of_aligned (inOrder : s.InOrder) (readable : s.failure? .get step.kind = none)
    (found : s.get? step.place = some live) (already : aligned live = true) :
    step.Ensures aligned s ⟨.unchanged, some live, []⟩ live (step.readIn s) where
  reported := rfl
  outcome := by
    rw [found]
    simp only [Outcome.expected, already, if_true]
  stored := found
  aligned := already
  kept := by
    intro name _ _
    rw [found, Option.getD_some]
  elsewhere := by
    intro other different
    rfl
  failures := rfl
  readable := readable
  inOrder := inOrder.of_objects rfl

/-- What a step that has aligned a live object leaves behind. -/
theorem ensures_of_align (lawful : step.Lawful aligned) (inOrder : s.InOrder)
    (readable : s.failure? .get step.kind = none) (found : s.get? step.place = some live)
    (ran : (step.align live).run Store.answer (step.readIn s) = (.ok result, after)) :
    ∃ object, step.Ensures aligned s result object after := by
  unfold align at ran
  split at ran
  · cases ran
  · next noDiff =>
      have already := (lawful.diff_eq_nil_iff live).1 noDiff
      cases ran
      exact ⟨live, ensures_of_aligned inOrder readable found already⟩
  · next changed someDiff differs =>
      have drifted : aligned live = false := by
        rw [Bool.eq_false_iff]
        intro already
        rw [(lawful.diff_eq_nil_iff live).2 already] at differs
        cases differs
        exact someDiff rfl
      split at ran
      · cases ran
      · next edited edit =>
          cases updated : (step.readIn s).update step.kind edited with
          | mk reply behind =>
              have answered : Store.answer (step.readIn s) (.update step.kind edited) =
                  (reply, behind) := updated
              simp only [Dialogue.run, answered] at ran
              cases reply with
              | error fault => cases ran
              | ok object =>
                  cases ran
                  exact ⟨object,
                    ensures_of_updated lawful inOrder readable found drifted edit updated⟩

/-- A step that goes through has done what it is there for. -/
theorem ensures_of_run (lawful : step.Lawful aligned) (inOrder : s.InOrder)
    (sound : ∀ fault, s.failure? .get step.kind = some fault → fault.isNotFound = false)
    (ran : step.ensure.run Store.answer s = (.ok result, after)) :
    ∃ object, step.Ensures aligned s result object after := by
  have readable := readable_of_run sound ran
  cases found : s.get? step.place with
  | none =>
      rw [run_ensure_of_absent readable found] at ran
      exact ensures_of_createDesired lawful inOrder readable found ran
  | some live =>
      rw [run_ensure_of_found inOrder readable found] at ran
      exact ensures_of_align lawful inOrder readable found ran

/-! ## Steps with nothing to do -/

/-- A step whose object is aligned reads it and does nothing else. -/
theorem run_ensure_of_aligned (lawful : step.Lawful aligned) (inOrder : s.InOrder)
    (readable : s.failure? .get step.kind = none) (found : s.get? step.place = some live)
    (already : aligned live = true) :
    step.ensure.run Store.answer s = (.ok ⟨.unchanged, some live, []⟩, step.readIn s) := by
  have noDiff := (lawful.diff_eq_nil_iff live).2 already
  rw [run_ensure_of_found inOrder readable found]
  simp only [align, noDiff]
  rfl

theorem queries_ensure_of_aligned (lawful : step.Lawful aligned) (inOrder : s.InOrder)
    (readable : s.failure? .get step.kind = none) (found : s.get? step.place = some live)
    (already : aligned live = true) : step.ensure.queries Store.answer s =
      [.get step.kind (.str step.namespaceName) (.str step.objectName)] := by
  have noDiff := (lawful.diff_eq_nil_iff live).2 already
  have read : (s.get step.kind (.str step.namespaceName) (.str step.objectName)).1 = .ok live :=
    Store.get_eq_ok_iff.2 ⟨readable, rfl, found⟩
  have answered : (s.answer (.get step.kind (.str step.namespaceName)
      (.str step.objectName))).1 = .ok live := read
  obtain ⟨fields, rfl⟩ := (inOrder _ _ found).isRecord
  simp only [ensure, Dialogue.queries, answered, liveOf, align, noDiff]

/-! ## Steps that go through -/

/-- Where no failure is arranged, a step goes through if it can compare and edit its object. -/
theorem exists_run_ensure (lawful : step.Lawful aligned) (inOrder : s.InOrder)
    (quiet : s.failures = [])
    (alignable : ∀ live, s.get? step.place = some live →
      (∃ changed, step.diff live = .ok changed) ∧ ∃ edited, step.applyDiff live = ⟨edited, none⟩) :
    ∃ result after, step.ensure.run Store.answer s = (.ok result, after) := by
  have calm : ∀ operation kind, s.failure? operation kind = none := Store.failure?_of_quiet quiet
  cases found : s.get? step.place with
  | none =>
      have absent : (step.readIn s).get? step.place = none := found
      obtain ⟨object, behind, created⟩ := Store.create_of_absent (s := step.readIn s) lawful.stated
        (Store.usable_ofTexts step.kind step.namespaceName step.objectName)
        (calm .create step.kind) absent
      rw [run_ensure_of_absent (calm _ _) found, run_createDesired, created]
      exact ⟨_, _, rfl⟩
  | some live =>
      obtain ⟨⟨changed, differs⟩, edited, edit⟩ := alignable live found
      rw [run_ensure_of_found inOrder (calm _ _) found]
      cases changed with
      | nil =>
          simp only [align, differs]
          exact ⟨_, _, rfl⟩
      | cons name rest =>
          obtain ⟨-, besideSpec⟩ := lawful.applied live edited edit
          have kept := inOrder _ _ found
          have sameMetadata := besideSpec "metadata" (by decide)
          have stated : Store.statedPlace step.kind edited = .ok step.place :=
            Store.statedPlace_congr sameMetadata kept.statedPlace_ofTexts
          have present : (step.readIn s).get? step.place = some live := found
          obtain ⟨object, behind, updated⟩ := Store.update_of_current (s := step.readIn s) stated kept
            (calm .update step.kind) present sameMetadata
          have answered : Store.answer (step.readIn s) (.update step.kind edited) =
              (.ok object, behind) := updated
          simp only [align, differs, edit, Dialogue.run, answered]
          exact ⟨_, _, rfl⟩

/-- A step that goes through for want of failures has done what it is there for. -/
theorem exists_ensures (lawful : step.Lawful aligned) (inOrder : s.InOrder)
    (quiet : s.failures = [])
    (alignable : ∀ live, s.get? step.place = some live →
      (∃ changed, step.diff live = .ok changed) ∧ ∃ edited, step.applyDiff live = ⟨edited, none⟩) :
    ∃ result after object, step.ensure.run Store.answer s = (.ok result, after) ∧
      step.Ensures aligned s result object after := by
  obtain ⟨result, after, ran⟩ := exists_run_ensure lawful inOrder quiet alignable
  have sound : ∀ fault, s.failure? .get step.kind = some fault → fault.isNotFound = false := by
    intro fault arranged
    rw [Store.failure?_of_quiet quiet] at arranged
    cases arranged
  obtain ⟨object, ensures⟩ := ensures_of_run lawful inOrder sound ran
  exact ⟨result, after, object, ran, ensures⟩

end EnsureStep

end AppOperator
