import AppOperator.Proofs.Cluster.Calls

/-!
# Arranged failures

No answer depends on the calls that a store has recorded, and of the arranged failures
only the one for the call matters (`Store.answer_annotated`).  A failure that is arranged
for no call of a dialogue has therefore no part in it: the dialogue has the same value,
and leaves the same objects behind, as in the store without arranged failures.
-/

set_option autoImplicit false

namespace AppOperator

namespace Store

variable {s : Store} {kind : ResourceKind}

/-! ## Records and failures -/

/-- The store with other calls recorded and other failures arranged. -/
def annotated (s : Store) (calls : List RecordedCall)
    (failures : List ((Operation × String) × Fault)) : Store :=
  { s with calls := calls, failures := failures }

/-- Records and failures are neither looked at nor changed. -/
def Heedless (answer : Store → ObjectPlace → Reply × Store) : Prop :=
  ∀ s at_ calls failures, answer (s.annotated calls failures) at_ =
    ((answer s at_).1, (answer s at_).2.annotated calls failures)

/-- The same is answered, and the same is recorded, with other records and other failures as
long as the failure for this operation is the same. -/
def AnswersAlike (s : Store) (operation : Operation) (kind : ResourceKind)
    (answer : Store → Reply × Store) : Prop :=
  ∃ noted, ∀ calls failures,
    (s.annotated calls failures).failure? operation kind = s.failure? operation kind →
      answer (s.annotated calls failures) =
        ((answer s).1, (answer s).2.annotated (calls ++ noted) failures)

theorem answering_annotated {answer : Store → ObjectPlace → Reply × Store}
    (heedless : Heedless answer) (operation : Operation) (at_ : ObjectPlace) :
    AnswersAlike s operation kind fun s => s.answering operation kind at_ answer := by
  let noted : List RecordedCall := [⟨operation, kind.name, at_.namespaceName.orElse (.str ""),
    at_.name.orElse (.str "")⟩]
  refine ⟨noted, fun calls failures sameFailure => ?_⟩
  have recorded : (s.annotated calls failures).record operation kind at_.namespaceName at_.name =
      (s.record operation kind at_.namespaceName at_.name).annotated (calls ++ noted) failures := rfl
  have arranged : ((s.record operation kind at_.namespaceName at_.name).annotated
      (calls ++ noted) failures).failure? operation kind =
        (s.record operation kind at_.namespaceName at_.name).failure? operation kind := sameFailure
  simp only [answering, recorded, arranged]
  split
  · rfl
  · split
    · rfl
    · next found _ => exact heedless _ found _ _

theorem write_annotated {operation : Operation} {object : Json}
    {answer : Store → ObjectPlace → Reply × Store} (heedless : Heedless answer) :
    AnswersAlike s operation kind fun s =>
      match statedPlace kind object with
      | .error fault => (.error fault, s)
      | .ok at_ => s.answering operation kind at_ answer := by
  cases statedPlace kind object with
  | error fault =>
      refine ⟨[], fun calls failures _ => ?_⟩
      rw [List.append_nil]
  | ok at_ => exact answering_annotated heedless operation at_

theorem seed_annotated (s : Store) (kind : ResourceKind) (object : Json)
    (calls : List RecordedCall) (failures : List ((Operation × String) × Fault)) :
    (s.annotated calls failures).seed kind object =
      ((s.seed kind object).1, (s.seed kind object).2.annotated calls failures) := by
  simp only [seed, takeVersion, annotated]
  split
  · rfl
  · split <;> rfl

theorem get?_annotated (s : Store) (calls : List RecordedCall)
    (failures : List ((Operation × String) × Fault)) (at_ : ObjectPlace) :
    (s.annotated calls failures).get? at_ = s.get? at_ := rfl

/-- No call is answered by what is recorded, nor by a failure that is arranged for another. -/
theorem answer_annotated (s : Store) (call : ClientCall) :
    AnswersAlike s call.operation call.kind fun s => s.answer call := by
  cases call with
  | get kind namespaceName name =>
      change s.AnswersAlike .get kind fun s => s.get kind namespaceName name
      unfold get
      refine answering_annotated ?_ .get _
      intro s at_ calls failures
      dsimp only
      rw [get?_annotated]
      split <;> rfl
  | create kind object =>
      refine write_annotated ?_
      intro s at_ calls failures
      dsimp only
      rw [get?_annotated]
      split
      · rfl
      · exact seed_annotated s kind object calls failures
  | update kind object =>
      refine write_annotated ?_
      intro s at_ calls failures
      dsimp only
      rw [get?_annotated]
      split
      · rfl
      · split
        · rfl
        · rfl
        · simp only [takeVersion, annotated]
          split <;> rfl
  | updateStatus kind object =>
      refine write_annotated ?_
      intro s at_ calls failures
      dsimp only
      rw [get?_annotated]
      split
      · rfl
      · split
        · simp only [takeVersion, annotated, put]
          split <;> rfl
        · rfl
        · rfl
  | delete kind namespaceName name =>
      change s.AnswersAlike .delete kind fun s => s.delete kind namespaceName name
      unfold delete
      refine answering_annotated ?_ .delete _
      intro s at_ calls failures
      dsimp only
      rw [get?_annotated]
      split <;> rfl

/-! ## Failures for other calls -/

/-- An answer, with the failures of the store behind it cleared. -/
def quieted (result : Reply × Store) : Reply × Store :=
  (result.1, result.2.clearFailures)

/-- A call that meets no arranged failure is answered as in the store without failures. -/
theorem answer_clearFailures (call : ClientCall)
    (quiet : s.failure? call.operation call.kind = none) :
    s.clearFailures.answer call = quieted (s.answer call) := by
  obtain ⟨noted, alike⟩ := answer_annotated s call
  have recorded : (s.answer call).2.calls = s.calls ++ noted :=
    congrArg (fun result => result.2.calls) (alike s.calls s.failures rfl)
  have cleared := alike s.calls [] quiet.symm
  rw [← recorded] at cleared
  exact cleared

/-- The same holds of a whole dialogue: what is arranged for other calls plays no part. -/
theorem dialogue_clearFailures {α : Type} (dialogue : ClientM α) (s : Store)
    (quiet : ∀ call ∈ dialogue.queries answer s, s.failure? call.operation call.kind = none) :
    dialogue.run answer s.clearFailures =
        ((dialogue.run answer s).1, (dialogue.run answer s).2.clearFailures) ∧
      dialogue.queries answer s.clearFailures = dialogue.queries answer s := by
  induction dialogue generalizing s with
  | done value => exact ⟨rfl, rfl⟩
  | ask call next tail =>
      have first : s.failure? call.operation call.kind = none := by
        refine quiet call ?_
        simp [Dialogue.queries]
      have rest : ∀ later ∈ (next (s.answer call).1).queries answer (s.answer call).2,
          (s.answer call).2.failure? later.operation later.kind = none := by
        intro later asked
        rw [failure?_of_failures (answer_change s call).failures]
        refine quiet later ?_
        simp [Dialogue.queries, asked]
      have answered := answer_clearFailures call first
      obtain ⟨runs, asks⟩ := tail _ _ rest
      simp only [Dialogue.run, Dialogue.queries, answered, quieted]
      exact ⟨runs, congrArg (call :: ·) asks⟩

theorem run_clearFailures {α : Type} (dialogue : ClientM α) (s : Store)
    (quiet : ∀ call ∈ dialogue.queries answer s, s.failure? call.operation call.kind = none) :
    dialogue.run answer s.clearFailures =
      ((dialogue.run answer s).1, (dialogue.run answer s).2.clearFailures) :=
  (dialogue_clearFailures dialogue s quiet).1

theorem queries_clearFailures {α : Type} (dialogue : ClientM α) (s : Store)
    (quiet : ∀ call ∈ dialogue.queries answer s, s.failure? call.operation call.kind = none) :
    dialogue.queries answer s.clearFailures = dialogue.queries answer s :=
  (dialogue_clearFailures dialogue s quiet).2

end Store

end AppOperator
