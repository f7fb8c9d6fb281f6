import AppOperator.Proofs.Cluster.Assigned
import AppOperator.Proofs.Dialogue.Positions

/-!
# Calls about one kind

A call about objects of one kind leaves those of every other kind alone, whatever it is
answered, and so does a dialogue whose calls all are about other kinds (`Avoids`).
-/

set_option autoImplicit false

namespace AppOperator

namespace Store

variable {s after : Store} {at_ : ObjectPlace} {kind : ResourceKind} {call : ClientCall}
  {object written : Json}

theorem kind_of_stated (stated : statedPlace kind object = .ok at_) : at_.kind = kind.name := by
  obtain ⟨fields, metadata, name, -, -, -, rfl⟩ := statedPlace_eq_ok_iff.1 stated
  rfl

/-- A call that writes an object where the object states to be. -/
inductive WritesStated : ClientCall → ResourceKind → Json → Prop
  | create (kind : ResourceKind) (object : Json) : WritesStated (.create kind object) kind object
  | update (kind : ResourceKind) (object : Json) : WritesStated (.update kind object) kind object
  | updateStatus (kind : ResourceKind) (object : Json) :
      WritesStated (.updateStatus kind object) kind object

theorem WritesStated.unstated {fault : Fault} (writes : WritesStated call kind object)
    (stated : statedPlace kind object = .error fault) : s.answer call = (.error fault, s) := by
  cases writes with
  | create => simp only [answer, Store.create, stated]
  | update => simp only [answer, Store.update, stated]
  | updateStatus => simp only [answer, Store.updateStatus, stated]

/-- A write is refused and changes nothing, or it writes one object. -/
theorem WritesStated.outcome (inOrder : s.InOrder) (writes : WritesStated call kind object) :
    (∃ fault, (s.answer call).1 = .error fault ∧ (s.answer call).2.objects = s.objects) ∨
      ∃ at_ written, statedPlace kind object = .ok at_ ∧ (s.answer call).1 = .ok written ∧
        Wrote s at_ written (s.answer call).2 := by
  cases stated : statedPlace kind object with
  | error fault =>
      rw [writes.unstated stated]
      exact .inl ⟨fault, rfl, rfl⟩
  | ok at_ =>
      have place : writtenPlace? call = some at_ := by
        cases writes <;> simp only [writtenPlace?, stated] <;> rfl
      have alike := answer_writtenAlike (t := s) ⟨inOrder, rfl, rfl⟩ place
      generalize s.answer call = result at alike
      cases alike with
      | refused fault objects objects' => exact .inl ⟨fault, rfl, objects⟩
      | written wrote wrote' alike => exact .inr ⟨at_, _, rfl, rfl, wrote⟩

theorem WritesStated.get?_of_kind (inOrder : s.InOrder) (writes : WritesStated call kind object)
    (other : at_.kind ≠ kind.name) : (s.answer call).2.get? at_ = s.get? at_ := by
  rcases writes.outcome inOrder with ⟨fault, -, objects⟩ | ⟨own, written, stated, -, wrote⟩
  · exact get?_of_objects objects at_
  · refine wrote.elsewhere at_ (ObjectPlace.beq_false_of_kind ?_)
    rw [kind_of_stated stated]
    exact Ne.symm other

/-- A call leaves objects of other kinds alone. -/
theorem get?_answer_of_kind (inOrder : s.InOrder) (call : ClientCall)
    (other : at_.kind ≠ call.kind.name) : (s.answer call).2.get? at_ = s.get? at_ := by
  cases call with
  | get kind namespaceName name =>
      change (s.get kind namespaceName name).2.get? at_ = _
      rw [get_snd]
      rfl
  | create kind object => exact (WritesStated.create kind object).get?_of_kind inOrder other
  | update kind object => exact (WritesStated.update kind object).get?_of_kind inOrder other
  | updateStatus kind object =>
      exact (WritesStated.updateStatus kind object).get?_of_kind inOrder other
  | delete kind namespaceName name =>
      change (s.delete kind namespaceName name).2.get? at_ = _
      refine answering_cases (P := fun result => result.2.get? at_ = s.get? at_) ?_ ?_
      · intro fault
        rfl
      · intro quiet usable_
        have different : ((⟨kind.name, namespaceName, name⟩ : ObjectPlace) == at_) = false :=
          ObjectPlace.beq_false_of_kind (Ne.symm other)
        split
        · rw [get?_remove, different]
          rfl
        · rfl

/-- An update that goes through stores what it sent with another version. -/
theorem update_eq_withVersion (updated : s.update kind object = (.ok written, after)) :
    ∃ version, withVersion object version = .ok written := by
  unfold update at updated
  split at updated
  · cases updated
  · obtain ⟨-, -, updated⟩ := answering_eq_ok_iff.1 updated
    split at updated
    · cases updated
    · dsimp only at updated
      split at updated
      · cases updated
      · cases updated
      · split at updated
        · cases updated
        · next marked =>
            cases updated
            exact ⟨_, marked⟩

theorem inOrder_of_run {α : Type} (inOrder : s.InOrder) (dialogue : ClientM α) :
    (dialogue.run answer s).2.InOrder := by
  induction dialogue generalizing s with
  | done value => exact inOrder
  | ask call next ih => exact ih _ ((answer_change s call).inOrder inOrder)

end Store

/-- None of the calls of a dialogue is about a kind. -/
def Avoids {α : Type} (kind : ResourceKind) (dialogue : ClientM α) : Prop :=
  dialogue.Everywhere fun call _ => call.kind.name ≠ kind.name

namespace Avoids

open Store

variable {α : Type} {kind : ResourceKind} {dialogue : ClientM α} {s : Store} {at_ : ObjectPlace}

theorem queries (avoids : Avoids kind dialogue) (s : Store) :
    ∀ call ∈ dialogue.queries answer s, call.kind.name ≠ kind.name := by
  induction dialogue generalizing s with
  | done value =>
      intro call among
      cases among
  | ask query next ih =>
      intro call among
      rcases List.mem_cons.1 among with rfl | among
      · exact avoids.1
      · exact ih _ (avoids.2 _) _ call among

/-- What a dialogue never calls about stays as it is. -/
theorem get?_run (avoids : Avoids kind dialogue) (inOrder : s.InOrder)
    (isKind : at_.kind = kind.name) : (dialogue.run answer s).2.get? at_ = s.get? at_ := by
  induction dialogue generalizing s with
  | done value => rfl
  | ask call next ih =>
      have other : at_.kind ≠ call.kind.name := by
        rw [isKind]
        exact Ne.symm avoids.1
      have later := ih _ (avoids.2 (s.answer call).1) ((answer_change s call).inOrder inOrder)
      exact later.trans (get?_answer_of_kind inOrder call other)

end Avoids

end AppOperator
