import AppOperator.Proofs.Cluster.Versions
import AppOperator.Proofs.Reconcile.Effects
import AppOperator.Proofs.Reconcile.Positions

/-!
# Conflicting writers

Between the read of an ensure step and its write others may write.  The step sends
the version that it has read, and versions are given out once, so that its write
goes through exactly if its object is still what the read has found.  Otherwise the
write is refused without effect and ends the pass.
-/

set_option autoImplicit false

namespace AppOperator

namespace Store

variable {s after : Store} {at_ : ObjectPlace} {kind : ResourceKind} {object live : Json}

/-- The object exists already, has been modified, or is missing. -/
inductive Refusal : Fault → Prop
  | exists_ (message : String) : Refusal (.api (.general (.int 409) "AlreadyExists" message))
  | modified (message : String) : Refusal (.api (.general (.int 409) "Conflict" message))
  | missing (message : String) : Refusal (.api (.missing message))

theorem create_of_present (stated : statedPlace kind object = .ok at_)
    (usable_ : usable at_ = .ok at_) (quiet : s.failure? .create kind = none)
    (present : s.get? at_ = some live) : ∃ fault, Refusal fault ∧
      s.create kind object = (.error fault, s.record .create kind at_.namespaceName at_.name) := by
  have recorded := @get?_of_objects s (s.record .create kind at_.namespaceName at_.name) rfl at_
  refine ⟨_, .exists_ (at_.name.spoken ++ " exists"), ?_⟩
  simp only [create, stated]
  rw [answering_of_ok quiet usable_, recorded, present]
  rfl

theorem update_of_absent (stated : statedPlace kind object = .ok at_)
    (usable_ : usable at_ = .ok at_) (quiet : s.failure? .update kind = none)
    (absent : s.get? at_ = none) : ∃ fault, Refusal fault ∧
      s.update kind object = (.error fault, s.record .update kind at_.namespaceName at_.name) := by
  have recorded := @get?_of_objects s (s.record .update kind at_.namespaceName at_.name) rfl at_
  refine ⟨_, .missing "", ?_⟩
  simp only [update, stated]
  rw [answering_of_ok quiet usable_, recorded, absent]

theorem update_of_modified {version version' : String} (stated : statedPlace kind object = .ok at_)
    (usable_ : usable at_ = .ok at_) (quiet : s.failure? .update kind = none)
    (found : s.get? at_ = some live) (sent : object.version? = some (.str version))
    (stored : live.version? = some (.str version')) (holds : version ≠ "")
    (different : version ≠ version') : ∃ fault, Refusal fault ∧
      s.update kind object = (.error fault, s.record .update kind at_.namespaceName at_.name) := by
  have recorded := @get?_of_objects s (s.record .update kind at_.namespaceName at_.name) rfl at_
  obtain ⟨fields, metadata, rfl, has, versioned⟩ := Json.version?_eq_some_iff.1 sent
  obtain ⟨own, data, rfl, has', versioned'⟩ := Json.version?_eq_some_iff.1 stored
  have isText : (Json.str version).holds = true := by simpa [Json.holds] using holds
  have stale : (Json.str version).alike (.str version') = false := by
    simpa [Json.alike] using different
  refine ⟨_, .modified "the object has been modified", ?_⟩
  simp only [update, stated]
  rw [answering_of_ok quiet usable_, recorded, found]
  simp only [Json.entry, has, Json.fieldOr, versioned, versionOf, has', versioned', bind,
    Except.bind, pure, Except.pure, Option.getD_some, isText, if_true, stale, Bool.not_false]

end Store

/-! ## From the read of a step to its write -/

namespace EnsureStep

variable {step : EnsureStep} {aligned : Json → Bool} {reply : Reply} {call : ClientCall}
  {rest : Reply → ClientM (Except Fault Ensured)}

/-- A write of a step: the desired object where the read has found nothing, and else the
object that was read with other fields next to its metadata.  A refusal is the result of the
step. -/
structure Writes (step : EnsureStep) (reply : Reply) (call : ClientCall)
    (rest : Reply → ClientM (Except Fault Ensured)) : Prop where
  call : (reply.toOption = none ∧ call = .create step.kind step.desired) ∨
    ∃ live edited, reply.toOption = some live ∧ call = .update step.kind edited ∧
      edited.field? "metadata" = live.field? "metadata"
  refused : ∀ fault, rest (.error fault) = .done (.error fault)

theorem writes_of_align (lawful : step.Lawful aligned) {live : Json}
    (found : reply.toOption = some live) (next : step.align live = .ask call rest) :
    step.Writes reply call rest := by
  unfold align at next
  split at next
  · cases next
  · cases next
  · split at next
    · cases next
    · next edited edit =>
        cases next
        obtain ⟨-, beside⟩ := lawful.applied live edited edit
        exact ⟨.inr ⟨live, edited, found, rfl, beside "metadata" (by decide)⟩, fun _ => rfl⟩

theorem writes_of_afterRead (lawful : step.Lawful aligned)
    (kept : ∀ live, reply = .ok live → Store.KeptAt step.place live)
    (next : step.afterRead reply = .ask call rest) : step.Writes reply call rest := by
  cases reply with
  | error fault =>
      cases missing : fault.isNotFound with
      | true =>
          rw [afterRead_of_missing missing] at next
          cases next
          exact ⟨.inl ⟨rfl, rfl⟩, fun _ => rfl⟩
      | false =>
          rw [afterRead_of_fault missing] at next
          cases next
  | ok live =>
      rw [afterRead_of_kept (kept live rfl)] at next
      exact writes_of_align lawful rfl next

end EnsureStep

section Positions

variable {d : Declaration} {routeClass : Option String}

def BeginsOtherwise (dialogue : ClientM (Except Fault PassReport)) : Prop :=
  ∀ call next, dialogue = .ask call next → call.operation ≠ .create ∧ call.operation ≠ .update

/-- A read of a pass is that of a step, with the phases after it behind. -/
def BeginsStep (steps : List EnsureStep) (call : ClientCall)
    (next : Reply → ClientM (Except Fault PassReport)) : Prop :=
  call.operation = .get → ∃ step ∈ steps, call = step.read ∧ ∃ outcomes goesOn,
    (∀ result, BeginsOtherwise (goesOn result)) ∧
      next = fun reply => (step.afterRead reply).bind (orStop step.phase outcomes goesOn)

/-- Phases that begin otherwise and whose reads are those of steps. -/
structure Phased (steps : List EnsureStep) (dialogue : ClientM (Except Fault PassReport)) :
    Prop where
  begins : BeginsOtherwise dialogue
  reads : dialogue.Everywhere (BeginsStep steps)

theorem afterRead_onlyWrites (step : EnsureStep) (reply : Reply) :
    (step.afterRead reply).Everywhere fun call _ => call.operation ≠ .get := by
  have aligns : ∀ live, (step.align live).Everywhere fun call _ => call.operation ≠ .get := by
    intro live
    unfold EnsureStep.align
    split
    · trivial
    · trivial
    · split
      · trivial
      · exact ⟨by simp [ClientCall.operation], fun _ => trivial⟩
  unfold EnsureStep.afterRead
  split
  · trivial
  · exact ⟨by simp [ClientCall.operation], fun _ => trivial⟩
  · exact aligns _

theorem phased_ensure {steps : List EnsureStep} {step : EnsureStep} (among : step ∈ steps)
    (outcomes : Outcomes) {goesOn : Ensured → ClientM (Except Fault PassReport)}
    (later : ∀ result, Phased steps (goesOn result)) :
    Phased steps (step.ensure.bind (orStop step.phase outcomes goesOn)) where
  begins := by
    intro call next same
    cases same
    simp [ClientCall.operation]
  reads := by
    rw [EnsureStep.ensure_eq]
    have begins : ∀ result, BeginsOtherwise (goesOn result) := fun result => (later result).begins
    refine everywhere_orStop ⟨fun _ => ⟨step, among, rfl, outcomes, goesOn, begins, rfl⟩, ?_⟩
      fun result => (later result).reads
    intro reply
    refine (afterRead_onlyWrites step reply).mono ?_
    intro call next write isRead
    exact absurd isRead write

theorem phased_reconcileStatus (steps : List EnsureStep) (workload : Option Json)
    (outcomes : Outcomes) (report : Bool → PassReport) :
    Phased steps ((reconcileStatus d workload).bind
      (orStop .reconcileStatus outcomes fun written => pure (.ok (report written)))) := by
  rcases reconcileStatus_cases d workload with ⟨result, same⟩ | ⟨observed, object, -, same⟩
  · have ended : ∃ value, (Dialogue.done result).bind (orStop .reconcileStatus outcomes
        fun written => pure (.ok (report written))) = .done value := by
      cases result with
      | error fault => exact ⟨_, rfl⟩
      | ok written => exact ⟨_, rfl⟩
    obtain ⟨value, ended⟩ := ended
    rw [same, ended]
    exact ⟨fun call next asks => (by cases asks), trivial⟩
  · rw [same]
    refine ⟨?_, everywhere_orStop ⟨fun isRead => (by cases isRead), fun _ => trivial⟩ fun _ => trivial⟩
    intro call next asks
    cases asks
    simp [ClientCall.operation]

/-- At every read of a pass one of its steps begins. -/
theorem phased_passFor (d : Declaration) (routeClass : Option String) :
    Phased (d.steps routeClass) (passFor d routeClass) := by
  have first : d.workloadStep ∈ d.steps routeClass := by simp [Declaration.steps]
  have second : d.endpointStep ∈ d.steps routeClass := by simp [Declaration.steps]
  rw [passFor_eq]
  refine phased_ensure first _ ?_
  intro workload
  refine phased_ensure second _ ?_
  intro endpoint
  cases routeClass with
  | none => exact phased_reconcileStatus _ _ _ _
  | some name =>
      have third : d.routeStep name ∈ d.steps (some name) := by simp [Declaration.steps]
      refine phased_ensure third _ ?_
      intro route
      exact phased_reconcileStatus _ _ _ _

/-- A read of a pass leads to the write of its step, and a refusal of the write ends the
pass in the phase of the step. -/
theorem writes_of_position {step : EnsureStep} {call : ClientCall} {reply : Reply}
    {next rest : Reply → ClientM (Except Fault PassReport)} (among : step ∈ d.steps routeClass)
    (kept : ∀ live, reply = .ok live → Store.KeptAt step.place live)
    (reads : (passFor d routeClass).LeadsTo (.ask step.read next))
    (asks : next reply = .ask call rest)
    (isWrite : call.operation = .create ∨ call.operation = .update) :
    ∃ behind outcomes, step.Writes reply call behind ∧
      ∀ fault, rest (.error fault) = .done (stopPass step.phase outcomes fault) := by
  obtain ⟨other, alsoAmong, sameRead, outcomes, goesOn, begins, rfl⟩ :=
    (phased_passFor d routeClass).reads.at_position reads rfl
  obtain rfl : step = other := Declaration.eq_of_read among alsoAmong sameRead
  obtain ⟨aligned, lawful⟩ := Declaration.lawful_of_mem among
  dsimp only at asks
  cases after : step.afterRead reply with
  | done result =>
      rw [after] at asks
      cases result with
      | error fault => cases asks
      | ok value =>
          obtain ⟨notCreate, notUpdate⟩ := begins value call rest asks
          rcases isWrite with create | update
          · exact absurd create notCreate
          · exact absurd update notUpdate
  | ask write behind =>
      rw [after] at asks
      cases asks
      have writes := EnsureStep.writes_of_afterRead lawful kept after
      refine ⟨behind, outcomes, writes, ?_⟩
      intro fault
      dsimp only
      rw [writes.refused]
      rfl

end Positions

/-! ## The write of a step among other writers -/

namespace EnsureStep

open Store

variable {step : EnsureStep} {aligned : Json → Bool} {reply : Reply} {call : ClientCall}
  {rest : Reply → ClientM (Except Fault Ensured)} {t : Store}

def writtenIn (step : EnsureStep) (call : ClientCall) (t : Store) : Store :=
  t.record call.operation step.kind (.str step.namespaceName) (.str step.objectName)

/-- Where the object is as it was read, the write goes through. -/
theorem Writes.goes_through (writes : step.Writes reply call rest) (lawful : step.Lawful aligned)
    (inOrder : t.InOrder) (quiet : t.failure? call.operation step.kind = none)
    (current : t.get? step.place = reply.toOption) :
    ∃ written after, t.answer call = (.ok written, after) ∧
      after.get? step.place = some written := by
  rcases writes.call with ⟨nothing, rfl⟩ | ⟨live, edited, found, rfl, sameMetadata⟩
  · obtain ⟨written, after, created⟩ := create_of_absent lawful.stated
      (usable_ofTexts step.kind step.namespaceName step.objectName) quiet (current.trans nothing)
    obtain ⟨at_, stated, -, -, wrote, -⟩ := create_eq_ok created
    rw [lawful.stated] at stated
    cases stated
    exact ⟨written, after, created, wrote.here⟩
  · have present := current.trans found
    have kept := inOrder _ _ present
    have stated : statedPlace step.kind edited = .ok step.place :=
      statedPlace_congr sameMetadata kept.statedPlace_ofTexts
    obtain ⟨written, after, updated⟩ := update_of_current stated kept quiet present sameMetadata
    obtain ⟨at_, old, own, -, -, wrote, -⟩ := update_eq_ok updated
    rw [stated] at own
    cases own
    exact ⟨written, after, updated, wrote.here⟩

/-- Where the object is not as it was read, the write is refused and has no effect. -/
theorem Writes.refused_of_changed {before : Store} (writes : step.Writes reply call rest)
    (lawful : step.Lawful aligned) (inOrder : before.InOrder) (issued : before.Issued)
    (ages : before.Ages t) (read : ∀ live, reply = .ok live → before.get? step.place = some live)
    (quiet : t.failure? call.operation step.kind = none)
    (changed : t.get? step.place ≠ reply.toOption) :
    ∃ fault, Refusal fault ∧ t.answer call = (.error fault, step.writtenIn call t) := by
  have usable_ := usable_ofTexts step.kind step.namespaceName step.objectName
  rcases writes.call with ⟨nothing, rfl⟩ | ⟨live, edited, found, rfl, sameMetadata⟩
  · rw [nothing] at changed
    obtain ⟨other, present⟩ := Option.ne_none_iff_exists'.1 changed
    exact create_of_present lawful.stated usable_ quiet present
  · have reads : reply = .ok live := by
      cases reply with
      | error fault => cases found
      | ok value =>
          cases found
          rfl
    have stored := read live reads
    have stated : statedPlace step.kind edited = .ok step.place :=
      statedPlace_congr sameMetadata (inOrder _ _ stored).statedPlace_ofTexts
    cases now : t.get? step.place with
    | none => exact update_of_absent stated usable_ quiet now
    | some other =>
        have different : other ≠ live := by
          rintro rfl
          exact changed (now.trans found.symm)
        -- the object is another one than was read, so its version is another one too
        have versions := ages.version_ne issued stored now different
        obtain ⟨number, -, version⟩ := issued _ _ stored
        obtain ⟨number', -, version'⟩ := ages.issued issued _ _ now
        have sent : edited.version? = some (.str (Decimal.natText number)) := by
          rw [Json.version?_congr sameMetadata, version]
        refine update_of_modified stated usable_ quiet now sent version'
          (Decimal.natText_ne_empty number) ?_
        intro same
        rw [version, version', same] at versions
        exact versions rfl

end EnsureStep

/-- A step never overwrites what others have written since its read: its write goes through
if its object is still what the read has found, and else it is refused, the store stays as
the others left it, and the pass reports that it failed in the phase of the step. -/
theorem concurrent_writer_is_not_overwritten {d : Declaration} {routeClass : Option String}
    {step : EnsureStep} {call : ClientCall} {before t : Store}
    {next rest : Reply → ClientM (Except Fault PassReport)} (among : step ∈ d.steps routeClass)
    (served : before.Served) (reads : (passFor d routeClass).LeadsTo (.ask step.read next))
    (others : (before.answer step.read).2.Written t)
    (writes : next (before.answer step.read).1 = .ask call rest)
    (isWrite : call.operation = .create ∨ call.operation = .update)
    (quiet : t.failure? call.operation step.kind = none) :
    (t.get? step.place = (before.answer step.read).1.toOption →
      ∃ written after, t.answer call = (.ok written, after) ∧
        after.get? step.place = some written) ∧
    (t.get? step.place ≠ (before.answer step.read).1.toOption →
      ∃ fault report, Store.Refusal fault ∧
        t.answer call = (.error fault, step.writtenIn call t) ∧
        rest (.error fault) = .done (.ok report) ∧ report.success = false ∧
        report.phase = .failed ∧ report.failedPhase = some step.phase) := by
  have inOrder := served.reached.inOrder
  have read : ∀ live, (before.answer step.read).1 = .ok live →
      before.get? step.place = some live := by
    intro live answered
    exact (Store.get_eq_ok_iff.1 answered).2.2
  have kept : ∀ live, (before.answer step.read).1 = .ok live →
      Store.KeptAt step.place live := by
    intro live answered
    exact inOrder _ _ (read live answered)
  obtain ⟨behind, outcomes, written, stops⟩ :=
    writes_of_position among kept reads writes isWrite
  obtain ⟨aligned, lawful⟩ := Declaration.lawful_of_mem among
  have ages : before.Ages t :=
    (Store.ages_answer inOrder step.read).trans
      (others.ages ((Store.answer_change before step.read).inOrder inOrder))
  have inOrderNow : t.InOrder :=
    others.inOrder ((Store.answer_change before step.read).inOrder inOrder)
  constructor
  · intro current
    exact written.goes_through lawful inOrderNow quiet current
  · intro changed
    obtain ⟨fault, refusal, answered⟩ :=
      written.refused_of_changed lawful inOrder served.issued ages read quiet changed
    refine ⟨fault, .failedIn step.phase outcomes fault, refusal, answered, ?_, rfl, rfl, rfl⟩
    rw [stops fault]
    cases refusal <;> rfl

/-- A workload is taken away and put back between the read and the write of a pass: the write
is refused.  Without other writers it goes through. -/
theorem recreated_workload_is_not_overwritten : ∃ (d : Declaration) (call : ClientCall)
    (next rest : Reply → ClientM (Except Fault PassReport)) (read recreated : Store),
    (passFor d none).LeadsTo (.ask d.workloadStep.read next) ∧
      read = (sampleStore.answer d.workloadStep.read).2 ∧
      recreated = ((read.answer (.delete .deployment (.str "default") (.str "web"))).2.answer
        (.create .deployment (.obj [("metadata", .obj [("name", .str "web")])]))).2 ∧
      next (sampleStore.answer d.workloadStep.read).1 = .ask call rest ∧
      (∃ written after, read.answer call = (.ok written, after) ∧
        after.get? d.workloadStep.place = some written) ∧
      ∃ fault report, Store.Refusal fault ∧
        recreated.answer call = (.error fault, d.workloadStep.writtenIn call recreated) ∧
        rest (.error fault) = .done (.ok report) ∧ report.success = false ∧
        report.phase = .failed ∧ report.failedPhase = some .ensureWorkload := by
  let d : Declaration := ⟨"web", "default", "uid-1", none, ⟨"nginx:2", 1, 8080, 80⟩, .initial, []⟩
  have served : sampleStore.Served := .seeded (.seeded .empty _ _) _ _
  have among : d.workloadStep ∈ d.steps none := by simp [Declaration.steps]
  have reads : (passFor d none).LeadsTo (.ask d.workloadStep.read _) := .here _
  obtain ⟨through, -⟩ := concurrent_writer_is_not_overwritten among served reads .none rfl
    (.inr rfl) rfl
  obtain ⟨-, refused⟩ := concurrent_writer_is_not_overwritten among served reads
    (.called (.called .none (.delete .deployment (.str "default") (.str "web")))
      (.create .deployment (.obj [("metadata", .obj [("name", .str "web")])]))) rfl (.inr rfl) rfl
  refine ⟨d, _, _, _, _, _, reads, rfl, rfl, rfl, through rfl, refused ?_⟩
  intro same
  have sections := congrArg (fun object => object.any fun live => (live.field? "spec").isSome) same
  cases sections

end AppOperator
