import AppOperator.Proofs.Cluster.Failures

/-!
# Recorded calls

A store keeps a record of calls that it never looks at: stores that differ in their
records alone answer alike and stay so.  A call that meets an arranged failure leaves
nothing but its record, and what a dialogue leaves behind is the effect of its calls,
one after the other.
-/

set_option autoImplicit false

namespace AppOperator

namespace Store

variable {s t : Store} {kind : ResourceKind}

/-- Stores that differ in the calls that they have recorded, if at all. -/
def SameButCalls (s t : Store) : Prop :=
  ∃ calls, t = { s with calls := calls }

namespace SameButCalls

theorem refl (s : Store) : SameButCalls s s := ⟨s.calls, rfl⟩

theorem symm (same : SameButCalls s t) : SameButCalls t s := by
  obtain ⟨calls, rfl⟩ := same
  exact ⟨s.calls, rfl⟩

theorem trans {u : Store} (first : SameButCalls s t) (second : SameButCalls t u) :
    SameButCalls s u := by
  obtain ⟨calls, rfl⟩ := first
  obtain ⟨calls', rfl⟩ := second
  exact ⟨calls', rfl⟩

theorem record (s : Store) (operation : Operation) (kind : ResourceKind)
    (namespaceName subject : Json) :
    SameButCalls s (s.record operation kind namespaceName subject) := ⟨_, rfl⟩

theorem objects (same : SameButCalls s t) : t.objects = s.objects := by
  obtain ⟨calls, rfl⟩ := same
  rfl

theorem failures (same : SameButCalls s t) : t.failures = s.failures := by
  obtain ⟨calls, rfl⟩ := same
  rfl

theorem clearFailures (same : SameButCalls s t) :
    SameButCalls s.clearFailures t.clearFailures := by
  obtain ⟨calls, rfl⟩ := same
  exact ⟨calls, rfl⟩

end SameButCalls

/-- What has been recorded plays no part in an answer. -/
theorem answer_sameButCalls (same : SameButCalls s t) (call : ClientCall) :
    (s.answer call).1 = (t.answer call).1 ∧ SameButCalls (s.answer call).2 (t.answer call).2 := by
  obtain ⟨calls, rfl⟩ := same
  obtain ⟨noted, alike⟩ := answer_annotated s call
  have answered := alike calls s.failures rfl
  have behind : (s.answer call).2.annotated (calls ++ noted) s.failures =
      { (s.answer call).2 with calls := calls ++ noted } := by
    rw [← (answer_change s call).failures]
    rfl
  exact ⟨(congrArg Prod.fst answered).symm, _, (congrArg Prod.snd answered).trans behind⟩

theorem run_sameButCalls {α : Type} (dialogue : ClientM α) (same : SameButCalls s t) :
    (dialogue.run answer s).1 = (dialogue.run answer t).1 ∧
      SameButCalls (dialogue.run answer s).2 (dialogue.run answer t).2 := by
  induction dialogue generalizing s t with
  | done value => exact ⟨rfl, same⟩
  | ask call next ih =>
      obtain ⟨sameReply, sameBehind⟩ := answer_sameButCalls same call
      simp only [Dialogue.run, ← sameReply]
      exact ih _ sameBehind

theorem exists_run_of_sameButCalls {α : Type} {dialogue : ClientM α} {value : α} {after : Store}
    (ran : dialogue.run answer s = (value, after)) (same : SameButCalls s t) :
    ∃ last, dialogue.run answer t = (value, last) ∧ SameButCalls after last := by
  have alike := run_sameButCalls dialogue same
  rw [ran] at alike
  exact ⟨(dialogue.run answer t).2, Prod.ext alike.1.symm rfl, alike.2⟩

/-! ## Calls that meet a failure -/

theorem answering_of_arranged {operation : Operation} {fault : Fault} {at_ : ObjectPlace}
    {answer : Store → ObjectPlace → Reply × Store}
    (arranged : s.failure? operation kind = some fault) :
    s.answering operation kind at_ answer =
      (.error fault, s.record operation kind at_.namespaceName at_.name) := by
  have same : (s.record operation kind at_.namespaceName at_.name).failure? operation kind =
      s.failure? operation kind := rfl
  simp only [answering, same, arranged]

/-- A call for which a failure is arranged is answered with it, unless it writes an object
that does not state its place and is refused in any store. -/
def Refused (call : ClientCall) (fault : Fault) (reply : Reply) : Prop :=
  reply = .error fault ∨
    (call.operation ≠ .get ∧ ∃ unstated, ∀ t : Store, (t.answer call).1 = .error unstated)

theorem write_of_arranged {call : ClientCall} {fault : Fault} {object : Json}
    {answer : Store → ObjectPlace → Reply × Store} (isWrite : call.operation ≠ .get)
    (answers : ∀ t : Store, t.answer call = match statedPlace call.kind object with
      | .error fault => (.error fault, t)
      | .ok at_ => t.answering call.operation call.kind at_ answer)
    (arranged : s.failure? call.operation call.kind = some fault) :
    SameButCalls s (s.answer call).2 ∧ Refused call fault (s.answer call).1 := by
  cases stated : statedPlace call.kind object with
  | error unstated =>
      simp only [stated] at answers
      rw [answers s]
      exact ⟨.refl s, .inr ⟨isWrite, unstated, fun t => by rw [answers t]⟩⟩
  | ok at_ =>
      simp only [stated] at answers
      rw [answers s, answering_of_arranged arranged]
      exact ⟨.record s _ _ _ _, .inl rfl⟩

theorem answer_of_arranged {call : ClientCall} {fault : Fault}
    (arranged : s.failure? call.operation call.kind = some fault) :
    SameButCalls s (s.answer call).2 ∧ Refused call fault (s.answer call).1 := by
  cases call with
  | get kind namespaceName name =>
      have failing : s.failure? .get kind = some fault := arranged
      have refused : s.answer (.get kind namespaceName name) =
          (.error fault, s.record .get kind namespaceName name) := by
        change s.get kind namespaceName name = _
        unfold get
        exact answering_of_arranged failing
      rw [refused]
      exact ⟨.record s _ _ _ _, .inl rfl⟩
  | create kind object =>
      exact write_of_arranged (by simp [ClientCall.operation]) (fun t => rfl) arranged
  | update kind object =>
      exact write_of_arranged (by simp [ClientCall.operation]) (fun t => rfl) arranged
  | updateStatus kind object =>
      exact write_of_arranged (by simp [ClientCall.operation]) (fun t => rfl) arranged
  | delete kind namespaceName name =>
      have failing : s.failure? .delete kind = some fault := arranged
      have refused : s.answer (.delete kind namespaceName name) =
          (.error fault, s.record .delete kind namespaceName name) := by
        change s.delete kind namespaceName name = _
        unfold delete
        exact answering_of_arranged failing
      rw [refused]
      exact ⟨.record s _ _ _ _, .inl rfl⟩

/-! ## The effects of calls -/

/-- The store after some calls, whatever they are answered. -/
def answerAll (s : Store) (calls : List ClientCall) : Store :=
  calls.foldl (fun s call => (s.answer call).2) s

theorem answerAll_append (s : Store) (first second : List ClientCall) :
    s.answerAll (first ++ second) = (s.answerAll first).answerAll second :=
  List.foldl_append

theorem failures_answerAll (s : Store) (calls : List ClientCall) :
    (s.answerAll calls).failures = s.failures := by
  induction calls generalizing s with
  | nil => rfl
  | cons call rest ih => exact (ih _).trans (answer_change s call).failures

/-- What a dialogue leaves behind is the effect of its calls. -/
theorem snd_run_eq_answerAll {α : Type} (dialogue : ClientM α) (s : Store) :
    (dialogue.run answer s).2 = s.answerAll (dialogue.queries answer s) := by
  induction dialogue generalizing s with
  | done value => rfl
  | ask call next ih =>
      simp only [Dialogue.run, Dialogue.queries, answerAll, List.foldl_cons]
      exact ih _ _

theorem run_failures {α : Type} (dialogue : ClientM α) (s : Store) :
    (dialogue.run answer s).2.failures = s.failures := by
  rw [snd_run_eq_answerAll, failures_answerAll]

end Store

end AppOperator
