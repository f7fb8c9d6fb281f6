import AppOperator.Proofs.Dialogue.Positions
import AppOperator.Proofs.Reconcile.Phases

/-!
# Positions in a pass

A step is its read and what it does about the answer; a pass is one phase behind
the other.  What holds at every position of a pass is shown of its phases.
-/

set_option autoImplicit false

namespace AppOperator

namespace EnsureStep

def read (step : EnsureStep) : ClientCall :=
  .get step.kind (.str step.namespaceName) (.str step.objectName)

/-- What a step does about the answer to its read. -/
def afterRead (step : EnsureStep) (reply : Reply) : ClientM (Except Fault Ensured) :=
  match liveOf reply with
  | .error fault => .done (.error fault)
  | .ok none => step.createDesired
  | .ok (some live) => step.align live

theorem ensure_eq (step : EnsureStep) : step.ensure = .ask step.read step.afterRead := rfl

variable {step : EnsureStep} {fault : Fault}

theorem afterRead_of_missing (missing : fault.isNotFound = true) :
    step.afterRead (.error fault) = step.createDesired := by
  simp only [afterRead, liveOf, missing, if_true]

theorem afterRead_of_fault (present : fault.isNotFound = false) :
    step.afterRead (.error fault) = .done (.error fault) := by
  simp only [afterRead, liveOf, present, Bool.false_eq_true, if_false]

theorem afterRead_of_kept {at_ : ObjectPlace} {live : Json} (kept : Store.KeptAt at_ live) :
    step.afterRead (.ok live) = step.align live := by
  obtain ⟨fields, rfl⟩ := kept.isRecord
  rfl

end EnsureStep

namespace Declaration

def steps (d : Declaration) (routeClass : Option String) : List EnsureStep :=
  [d.workloadStep, d.endpointStep] ++ routeClass.toList.map d.routeStep

variable {d : Declaration} {routeClass : Option String} {step other : EnsureStep}

theorem mem_steps_iff : step ∈ d.steps routeClass ↔ step = d.workloadStep ∨
    step = d.endpointStep ∨ ∃ name, routeClass = some name ∧ step = d.routeStep name := by
  simp only [steps, List.cons_append, List.nil_append, List.mem_cons, List.mem_map,
    Option.mem_toList, eq_comm]

theorem lawful_of_mem (among : step ∈ d.steps routeClass) : ∃ aligned, step.Lawful aligned := by
  rcases mem_steps_iff.1 among with rfl | rfl | ⟨name, -, rfl⟩
  · exact ⟨_, d.workloadStep_lawful⟩
  · exact ⟨_, d.endpointStep_lawful⟩
  · exact ⟨_, d.routeStep_lawful name⟩

theorem eq_of_read (among : step ∈ d.steps routeClass) (alsoAmong : other ∈ d.steps routeClass)
    (same : step.read = other.read) : step = other := by
  have sameKind : step.kind = other.kind := (ClientCall.get.inj same).1
  rcases mem_steps_iff.1 among with rfl | rfl | ⟨name, inForce, rfl⟩
  · rcases mem_steps_iff.1 alsoAmong with rfl | rfl | ⟨name', -, rfl⟩
    · rfl
    · exact absurd sameKind (by decide : ResourceKind.deployment ≠ .service)
    · exact absurd sameKind (by decide : ResourceKind.deployment ≠ .ingress)
  · rcases mem_steps_iff.1 alsoAmong with rfl | rfl | ⟨name', -, rfl⟩
    · exact absurd sameKind (by decide : ResourceKind.service ≠ .deployment)
    · rfl
    · exact absurd sameKind (by decide : ResourceKind.service ≠ .ingress)
  · rcases mem_steps_iff.1 alsoAmong with rfl | rfl | ⟨name', inForce', rfl⟩
    · exact absurd sameKind (by decide : ResourceKind.ingress ≠ .deployment)
    · exact absurd sameKind (by decide : ResourceKind.ingress ≠ .service)
    · cases inForce.symm.trans inForce'
      rfl

end Declaration

/-- The status phase makes up its mind at once, or writes the declaration with another ready
count. -/
theorem reconcileStatus_cases (d : Declaration) (workload : Option Json) :
    (∃ result, reconcileStatus d workload = .done result) ∨
      ∃ observed object, d.withReadyReplicas observed = .ok object ∧
        reconcileStatus d workload =
          .ask (.updateStatus .simpleApp object) fun reply => .done (reply.map fun _ => true) := by
  unfold reconcileStatus
  split
  · exact .inl ⟨_, rfl⟩
  · next observed _ =>
      split
      · exact .inl ⟨_, rfl⟩
      · split
        · exact .inl ⟨_, rfl⟩
        · next object sent => exact .inr ⟨observed, object, sent, rfl⟩

theorem everywhere_orStop {α : Type} {phase : ClientM (Except Fault α)} {name : Phase}
    {outcomes : Outcomes} {goesOn : α → ClientM (Except Fault PassReport)}
    {P : ClientCall → (Reply → ClientM (Except Fault PassReport)) → Prop}
    (first : phase.Everywhere fun call next =>
      P call fun reply => (next reply).bind (orStop name outcomes goesOn))
    (later : ∀ value, (goesOn value).Everywhere P) :
    (phase.bind (orStop name outcomes goesOn)).Everywhere P := by
  refine first.bind ?_
  intro result
  cases result with
  | error fault => trivial
  | ok value => exact later value

end AppOperator
