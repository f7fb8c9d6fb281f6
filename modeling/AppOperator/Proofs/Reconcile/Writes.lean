import AppOperator.Proofs.Cluster.Kinds
import AppOperator.Proofs.Reconcile.Positions

/-!
# What a pass writes

A step leaves the stored objects as they were, or it has created its object, or updated the
live one (`EnsureStep.Leaves`), whatever it is answered and however it ends.  The status phase
writes to declarations only.  What all phases bring about in every store in order, and what is
transitive, the whole pass brings about.
-/

set_option autoImplicit false

namespace AppOperator

open Store
open Declaration (mem_steps_iff)

/-- The store that a step leaves behind: nothing has been written, or its object has been
created, or the live one has been edited and has got another version. -/
inductive EnsureStep.Leaves (step : EnsureStep) (s after : Store) : Prop
  | untouched (objects : after.objects = s.objects)
  | created {written : Json} (absent : s.get? step.place = none)
      (create : (step.readIn s).create step.kind step.desired = (.ok written, after))
      (wrote : Wrote (step.readIn s) step.place written after)
  | updated {live edited written version : Json} (found : s.get? step.place = some live)
      (edit : step.applyDiff live = ⟨edited, none⟩)
      (marked : withVersion edited version = .ok written)
      (wrote : Wrote (step.readIn s) step.place written after)

namespace EnsureStep

variable {step : EnsureStep} {aligned : Json → Bool} {s : Store} {live : Json}

theorem leaves_createDesired (lawful : step.Lawful aligned) (inOrder : s.InOrder) :
    step.Leaves s (step.createDesired.run answer (step.readIn s)).2 := by
  have ordered : (step.readIn s).InOrder := inOrder.of_objects rfl
  rcases (WritesStated.create step.kind step.desired).outcome ordered with
    ⟨fault, -, objects⟩ | ⟨at_, written, stated, answered, wrote⟩
  · exact .untouched objects
  · cases lawful.stated.symm.trans stated
    obtain ⟨own, stated', -, absent, -⟩ := create_eq_ok (Prod.ext answered rfl)
    cases lawful.stated.symm.trans stated'
    exact .created absent (Prod.ext answered rfl) wrote

theorem leaves_align (lawful : step.Lawful aligned) (inOrder : s.InOrder)
    (found : s.get? step.place = some live) :
    step.Leaves s ((step.align live).run answer (step.readIn s)).2 := by
  have ordered : (step.readIn s).InOrder := inOrder.of_objects rfl
  unfold align
  split
  · exact .untouched rfl
  · exact .untouched rfl
  · split
    · exact .untouched rfl
    · next edited edit =>
        rcases (WritesStated.update step.kind edited).outcome ordered with
          ⟨fault, -, objects⟩ | ⟨at_, written, stated, answered, wrote⟩
        · exact .untouched objects
        · have own : statedPlace step.kind edited = .ok step.place :=
            statedPlace_congr ((lawful.applied live edited edit).2 "metadata" (by decide))
              (inOrder _ _ found).statedPlace_ofTexts
          cases own.symm.trans stated
          obtain ⟨version, marked⟩ := update_eq_withVersion (Prod.ext answered rfl)
          exact .updated found edit marked wrote

/-- What a step takes for the live object is stored at its place. -/
theorem found_of_liveOf (inOrder : s.InOrder) (isLive : liveOf (s.get step.kind
    (.str step.namespaceName) (.str step.objectName)).1 = .ok (some live)) :
    s.get? step.place = some live := by
  cases answered : (s.get step.kind (.str step.namespaceName) (.str step.objectName)).1 with
  | error fault =>
      rw [answered, liveOf] at isLive
      split at isLive <;> cases isLive
  | ok object =>
      obtain ⟨-, -, found⟩ := get_eq_ok_iff.1 answered
      obtain ⟨fields, rfl⟩ := (inOrder _ _ found).isRecord
      rw [answered] at isLive
      cases isLive
      exact found

theorem leaves_ensure (lawful : step.Lawful aligned) (inOrder : s.InOrder) :
    step.Leaves s (step.ensure.run answer s).2 := by
  rw [run_ensure]
  split
  · exact .untouched rfl
  · exact leaves_createDesired lawful inOrder
  · next live isLive => exact leaves_align lawful inOrder (found_of_liveOf inOrder isLive)

theorem get?_run_ensure {at_ : ObjectPlace} (lawful : step.Lawful aligned) (inOrder : s.InOrder)
    (other : at_.kind ≠ step.kind.name) : (step.ensure.run answer s).2.get? at_ = s.get? at_ := by
  have elsewhere : (step.place == at_) = false := ObjectPlace.beq_false_of_kind (Ne.symm other)
  cases leaves_ensure lawful inOrder with
  | untouched objects => exact get?_of_objects objects at_
  | created _ _ wrote => exact wrote.elsewhere at_ elsewhere
  | updated _ _ _ wrote => exact wrote.elsewhere at_ elsewhere

end EnsureStep

theorem get?_run_reconcileStatus {s : Store} {at_ : ObjectPlace} (inOrder : s.InOrder)
    (d : Declaration) (workload : Option Json) (owned : at_.kind ≠ ResourceKind.simpleApp.name) :
    ((reconcileStatus d workload).run answer s).2.get? at_ = s.get? at_ := by
  rcases reconcileStatus_cases d workload with ⟨result, same⟩ | ⟨_, object, -, same⟩
  · rw [same]
    rfl
  · rw [same]
    exact get?_answer_of_kind inOrder (.updateStatus .simpleApp object) owned

/-! ## What all phases bring about -/

/-- A relation between stores that is about the stored objects and can be put together. -/
structure Composes (R : Store → Store → Prop) : Prop where
  untouched : ∀ {s after : Store}, after.objects = s.objects → R s after
  trans : ∀ {s middle after : Store}, R s middle → R middle after → R s after

/-- A dialogue takes every store in order to one that is related to it. -/
def Brings {α : Type} (R : Store → Store → Prop) (dialogue : ClientM α) : Prop :=
  ∀ s : Store, s.InOrder → R s (dialogue.run answer s).2

namespace Composes

variable {R : Store → Store → Prop} {d : Declaration} {routeClass : Option String}

theorem orStop {α : Type} {phase : ClientM (Except Fault α)} {name : Phase} {outcomes : Outcomes}
    {goesOn : α → ClientM (Except Fault PassReport)} (composes : Composes R)
    (first : Brings R phase) (later : ∀ value, Brings R (goesOn value)) :
    Brings R (phase.bind (orStop name outcomes goesOn)) := by
  intro s inOrder
  have begun := first s inOrder
  have ordered := inOrder_of_run inOrder phase
  rw [Dialogue.run_bind]
  cases (phase.run answer s).1 with
  | error fault => exact begun
  | ok value => exact composes.trans begun (later value _ ordered)

theorem passFor (composes : Composes R)
    (steps : ∀ step ∈ d.steps routeClass, Brings R step.ensure)
    (status : ∀ workload, Brings R (reconcileStatus d workload)) :
    Brings R (passFor d routeClass) := by
  have workload : Brings R d.workloadStep.ensure := steps _ (mem_steps_iff.2 (.inl rfl))
  have endpoint : Brings R d.endpointStep.ensure := steps _ (mem_steps_iff.2 (.inr (.inl rfl)))
  have route : Brings R (d.ensureRoute routeClass) := by
    cases routeClass with
    | none => exact fun s _ => composes.untouched rfl
    | some name => exact steps _ (mem_steps_iff.2 (.inr (.inr ⟨name, rfl, rfl⟩)))
  rw [passFor_eq]
  refine composes.orStop workload fun workload => ?_
  refine composes.orStop endpoint fun endpoint => ?_
  refine composes.orStop route fun route => ?_
  exact composes.orStop (status workload.object) fun written s _ => composes.untouched rfl

/-- What the steps of the stored declaration and the status phase bring about, a pass for its key
brings about. -/
theorem reconcile {s : Store} {key : ObjectKey} (composes : Composes R) (inOrder : s.InOrder)
    (steps : ∀ object d, s.get? key.place = some object → Declaration.ofResource object = .ok d →
      ∀ step ∈ d.steps routeClass, Brings R step.ensure)
    (status : ∀ d workload, Brings R (reconcileStatus d workload)) :
    R s ((reconcile routeClass key).run answer s).2 := by
  have read : R s (readIn key s) := composes.untouched rfl
  have ordered : (readIn key s).InOrder := inOrder.of_objects rfl
  rw [run_reconcile]
  cases fetched : ((fetch key).run answer s).1 with
  | error fault => exact read
  | ok found =>
      cases found with
      | none => exact read
      | some d =>
          obtain ⟨-, -, ⟨object, stored, parses⟩, -⟩ := fetch_eq_some (Prod.ext fetched rfl)
          have passed := composes.passFor (steps object d stored parses) (status d)
          exact composes.trans read (passed _ ordered)

end Composes

end AppOperator
