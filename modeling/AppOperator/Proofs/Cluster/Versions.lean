import AppOperator.Proofs.Cluster.Calls

/-!
# Versions of stored objects

Every version is given out once: an object that has been written since has a
version that no object had before (`Store.Ages`).  Objects of a cluster that is
written to in no other way have versions that were given out
(`Store.Served.issued`), so that two objects that a place has held at different
times are told apart by them.
-/

set_option autoImplicit false

namespace AppOperator

theorem Decimal.natText_inj {m n : Nat} : Decimal.natText m = Decimal.natText n ↔ m = n := by
  constructor
  · intro same
    have digits : Nat.toDigits 10 m = Nat.toDigits 10 n := String.ofList_inj.1 same
    rw [← Nat.ofDigitChars_toDigits (b := 10) (n := m) (by decide) (by decide), digits,
      Nat.ofDigitChars_toDigits (by decide) (by decide)]
  · rintro rfl
    rfl

theorem Decimal.natText_ne_empty (n : Nat) : Decimal.natText n ≠ "" := by
  intro empty
  exact Nat.toDigits_ne_nil (String.ofList_eq_empty_iff.1 empty)

/-- The version that an object states. -/
def Json.version? (object : Json) : Option Json :=
  object.dig? ["metadata", "resourceVersion"]

theorem Json.version?_congr {object other : Json}
    (same : object.field? "metadata" = other.field? "metadata") :
    object.version? = other.version? := by
  simp only [version?, dig?, same]

theorem Json.version?_eq_some_iff {object version : Json} : object.version? = some version ↔
    ∃ fields metadata, object = .obj fields ∧
      Fields.get? fields "metadata" = some (.obj metadata) ∧
      Fields.get? metadata "resourceVersion" = some version := by
  constructor
  · intro stated
    obtain ⟨fields, _, rfl, has, leads⟩ := dig?_cons_eq_some_iff.1 stated
    obtain ⟨metadata, _, rfl, versioned, same⟩ := dig?_cons_eq_some_iff.1 leads
    cases same
    exact ⟨fields, metadata, rfl, has, versioned⟩
  · rintro ⟨fields, metadata, rfl, has, versioned⟩
    exact dig?_cons_eq_some_iff.2 ⟨fields, _, rfl, has,
      dig?_cons_eq_some_iff.2 ⟨metadata, _, rfl, versioned, rfl⟩⟩

theorem Json.version?_set (fields metadata : Fields) (version : Json) :
    (Json.obj (Fields.set fields "metadata"
      (.obj (Fields.set metadata "resourceVersion" version)))).version? = some version := by
  simp only [version?, dig?, field?, Fields.get?_set_self, Option.bind_some]

namespace Store

variable {s after : Store} {at_ : ObjectPlace} {kind : ResourceKind} {object written : Json}

/-- The object has a version that the store gave out before it came to its counter. -/
def Versioned (s : Store) (object : Json) : Prop :=
  ∃ number < s.nextVersion, object.version? = some (.str (Decimal.natText number))

/-- Every version was given out. -/
def Issued (s : Store) : Prop :=
  ∀ at_ object, s.get? at_ = some object → s.Versioned object

/-- A store is in the course of being written to: its objects are old ones or have versions
that are new. -/
structure Ages (s after : Store) : Prop where
  counter : s.nextVersion ≤ after.nextVersion
  objects : ∀ at_ object, after.get? at_ = some object → s.get? at_ = some object ∨
    ∃ number, s.nextVersion ≤ number ∧ number < after.nextVersion ∧
      object.version? = some (.str (Decimal.natText number))

namespace Ages

theorem of_objects (objects : after.objects = s.objects)
    (counter : s.nextVersion ≤ after.nextVersion) : s.Ages after where
  counter := counter
  objects := by
    intro at_ object found
    rw [get?_of_objects objects] at found
    exact .inl found

theorem refl (s : Store) : s.Ages s :=
  of_objects rfl (Nat.le_refl _)

theorem trans {middle : Store} (first : s.Ages middle) (second : middle.Ages after) :
    s.Ages after where
  counter := Nat.le_trans first.counter second.counter
  objects := by
    intro at_ object found
    rcases second.objects at_ object found with still | ⟨number, issued, fresh, version⟩
    · rcases first.objects at_ object still with old | ⟨number, issued, fresh, version⟩
      · exact .inl old
      · exact .inr ⟨number, issued, Nat.lt_of_lt_of_le fresh second.counter, version⟩
    · exact .inr ⟨number, Nat.le_trans first.counter issued, fresh, version⟩

theorem of_wrote (wrote : Wrote s at_ object after)
    (counter : after.nextVersion = s.nextVersion + 1)
    (version : object.version? = some (.str (Decimal.natText s.nextVersion))) : s.Ages after where
  counter := by omega
  objects := by
    intro other found holds
    cases agree : at_ == other with
    | true =>
        have here := wrote.here
        rw [get?_congr agree, holds] at here
        cases here
        exact .inr ⟨s.nextVersion, Nat.le_refl _, by omega, version⟩
    | false =>
        rw [wrote.elsewhere other agree] at holds
        exact .inl holds

theorem of_remove (s : Store) (at_ : ObjectPlace) : s.Ages (s.remove at_) where
  counter := Nat.le_refl _
  objects := by
    intro other found holds
    rw [get?_remove] at holds
    split at holds
    · cases holds
    · exact .inl holds

theorem issued (ages : s.Ages after) (issued : s.Issued) : after.Issued := by
  intro at_ object found
  rcases ages.objects at_ object found with old | ⟨number, -, fresh, version⟩
  · obtain ⟨number, earlier, version⟩ := issued at_ object old
    exact ⟨number, Nat.lt_of_lt_of_le earlier ages.counter, version⟩
  · exact ⟨number, fresh, version⟩

end Ages

/-! ## What calls do to versions -/

theorem version?_withVersion {version : Json} (marked : withVersion object version = .ok written) :
    written.version? = some version := by
  obtain ⟨fields, metadata, rfl, has, rfl⟩ := withVersion_eq_ok_iff.1 marked
  exact Json.version?_set fields metadata version

theorem nextVersion_le_seed (s : Store) (kind : ResourceKind) (object : Json) :
    s.nextVersion ≤ (s.seed kind object).2.nextVersion := by
  simp only [seed, takeVersion]
  split
  · exact Nat.le_refl _
  · split
    · exact Nat.le_succ _
    · exact Nat.le_succ _

theorem ages_seed (s : Store) (kind : ResourceKind) (object : Json) :
    s.Ages (s.seed kind object).2 := by
  by_cases lookable : ∃ at_, statedPlace kind object = .ok at_ ∧ usable at_ = .ok at_
  · obtain ⟨at_, stated, usable_⟩ := lookable
    obtain ⟨fields, metadata, name, rfl, has, named, place⟩ := statedPlace_eq_ok_iff.1 stated
    have kept : KeptAt at_ (s.seededObject fields metadata) :=
      keptAt_seededObject named usable_ place
    rw [seed_obj_of_stated has named usable_ place]
    exact Ages.of_wrote (wrote_put rfl rfl fun _ => kept) rfl (Json.version?_set _ _ _)
  · have unstated : ∀ at_, statedPlace kind object = .ok at_ → usable at_ ≠ .ok at_ := by
      intro at_ stated usable_
      exact lookable ⟨at_, stated, usable_⟩
    have counter := nextVersion_le_seed s kind object
    obtain ⟨fault, after, refused, objects, -⟩ := seed_of_unstated (s := s) unstated
    rw [refused] at counter ⊢
    exact .of_objects objects counter

theorem ages_record (s : Store) (operation : Operation) (kind : ResourceKind)
    (namespaceName subject : Json) : s.Ages (s.record operation kind namespaceName subject) :=
  .of_objects rfl (Nat.le_refl _)

theorem ages_create (s : Store) (kind : ResourceKind) (object : Json) :
    s.Ages (s.create kind object).2 := by
  unfold create
  split
  · exact .refl s
  · next at_ stated =>
      refine answering_cases (P := fun result => s.Ages result.2) ?_ ?_
      · intro fault
        exact ages_record s _ _ _ _
      · intro quiet usable_
        split
        · exact ages_record s _ _ _ _
        · exact (ages_record s _ _ _ _).trans (ages_seed _ kind object)

theorem ages_update (s : Store) (kind : ResourceKind) (object : Json) :
    s.Ages (s.update kind object).2 := by
  unfold update
  split
  · exact .refl s
  · next at_ stated =>
      refine answering_cases (P := fun result => s.Ages result.2) ?_ ?_
      · intro fault
        exact ages_record s _ _ _ _
      · intro quiet usable_
        have recorded := ages_record s .update kind at_.namespaceName at_.name
        split
        · exact recorded
        · dsimp only
          split
          · exact recorded
          · exact recorded
          · split
            · exact .of_objects rfl (Nat.le_succ _)
            · next marked =>
                have kept := keptAt_of_stated stated usable_ marked
                exact .of_wrote (wrote_put rfl rfl fun _ => kept) rfl (version?_withVersion marked)

/-- In a store in order the status of a stored object can be given a version. -/
theorem ages_updateStatus (inOrder : s.InOrder) (kind : ResourceKind) (object : Json) :
    s.Ages (s.updateStatus kind object).2 := by
  unfold updateStatus
  split
  · exact .refl s
  · next at_ stated =>
      refine answering_cases (P := fun result => s.Ages result.2) ?_ ?_
      · intro fault
        exact ages_record s _ _ _ _
      · intro quiet usable_
        have recorded := ages_record s .updateStatus kind at_.namespaceName at_.name
        split
        · exact recorded
        · next live found =>
            split
            · next status fields sent =>
                have kept := keptAt_marked found status inOrder
                obtain ⟨metadata, has, -⟩ := kept.record_inj
                have versioned : ∀ version, withVersion (.obj (Fields.set fields "status" status))
                    version = .ok _ :=
                  fun version => withVersion_eq_ok_iff.2 ⟨_, metadata, rfl, has, rfl⟩
                have marked : Wrote s at_ (.obj (Fields.set fields "status" status))
                    ((s.record .updateStatus kind at_.namespaceName at_.name).put at_
                      (.obj (Fields.set fields "status" status))) :=
                  wrote_put rfl rfl fun _ => kept
                simp only [takeVersion, versioned]
                exact .of_wrote (marked.again rfl rfl fun _ => kept.withVersion (versioned _)) rfl
                  (Json.version?_set _ _ _)
            · exact recorded
            · exact recorded

theorem ages_delete (s : Store) (kind : ResourceKind) (namespaceName name : Json) :
    s.Ages (s.delete kind namespaceName name).2 := by
  unfold delete
  refine answering_cases (P := fun result => s.Ages result.2) ?_ ?_
  · intro fault
    exact ages_record s _ _ _ _
  · intro quiet usable_
    split
    · exact (ages_record s _ _ _ _).trans (.of_remove _ _)
    · exact ages_record s _ _ _ _

theorem ages_answer (inOrder : s.InOrder) (call : ClientCall) : s.Ages (s.answer call).2 := by
  cases call with
  | get kind namespaceName name =>
      change s.Ages (s.get kind namespaceName name).2
      rw [get_snd]
      exact ages_record s _ _ _ _
  | create kind object => exact ages_create s kind object
  | update kind object => exact ages_update s kind object
  | updateStatus kind object => exact ages_updateStatus inOrder kind object
  | delete kind namespaceName name => exact ages_delete s kind namespaceName name

/-! ## Stores that give out all versions -/

/-- The stores that can be come by where an object that is changed where it lies goes on
stating its place and its version. -/
inductive Served : Store → Prop
  | empty : Served .empty
  | seeded {s : Store} (before : Served s) (kind : ResourceKind) (object : Json) :
      Served (s.seed kind object).2
  | answered {s : Store} (before : Served s) (call : ClientCall) : Served (s.answer call).2
  | listed {s : Store} (before : Served s) (kind : ResourceKind) (scope : Option String) :
      Served (s.list kind scope).2
  | watched {s : Store} (before : Served s) (kind : ResourceKind) (scope : Option String)
      (position : Json) : Served (s.watch kind scope position).2
  | failing {s : Store} (before : Served s) (operation : Operation) (kind : ResourceKind)
      (fault : Fault) : Served (s.fail operation kind fault)
  | cleared {s : Store} (before : Served s) : Served s.clearFailures
  | dropped {s : Store} (before : Served s) (at_ : ObjectPlace) : Served (s.remove at_)
  | edited {s : Store} (before : Served s) (at_ : ObjectPlace) (path : List Json)
      (value : Option Json)
      (stays : ∀ object changed, s.get? at_ = some object → editAt value path object = .ok changed →
        KeptAt at_ changed ∧ changed.version? = object.version?) : Served (s.edit at_ path value).2

theorem Served.reached (served : Served s) : Reached s := by
  induction served with
  | empty => exact .empty
  | seeded before kind object reached => exact .seeded reached kind object
  | answered before call reached => exact .answered reached call
  | listed before kind scope reached => exact .listed reached kind scope
  | watched before kind scope position reached => exact .watched reached kind scope position
  | failing before operation kind fault reached => exact .failing reached operation kind fault
  | cleared before reached => exact .cleared reached
  | dropped before at_ reached => exact .dropped reached at_
  | edited before at_ path value stays reached =>
      refine .edited reached at_ path value ?_
      intro object changed found edit
      exact (stays object changed found edit).1

theorem Served.issued (served : Served s) : s.Issued := by
  induction served with
  | empty =>
      intro at_ object found
      cases found
  | seeded before kind object issued => exact (ages_seed _ kind object).issued issued
  | answered before call issued => exact (ages_answer before.reached.inOrder call).issued issued
  | @listed s before kind scope issued =>
      have ages : s.Ages (s.list kind scope).2 := by
        simp only [list]
        split
        · exact .of_objects rfl (Nat.le_refl _)
        · exact .of_objects rfl (Nat.le_succ _)
      exact ages.issued issued
  | @watched s before kind scope position issued =>
      have ages : s.Ages (s.watch kind scope position).2 := by
        simp only [watch]
        split <;> exact .of_objects rfl (Nat.le_refl _)
      exact ages.issued issued
  | failing before operation kind fault issued =>
      exact (Ages.of_objects rfl (Nat.le_refl _)).issued issued
  | cleared before issued => exact (Ages.of_objects rfl (Nat.le_refl _)).issued issued
  | dropped before at_ issued => exact (Ages.of_remove _ at_).issued issued
  | @edited s before at_ path value stays issued =>
      unfold edit
      split
      · exact issued
      · next object present =>
          split
          · exact issued
          · next changed edit =>
              intro other found holds
              rw [get?_put] at holds
              split at holds
              · cases holds
                obtain ⟨number, earlier, version⟩ := issued at_ object present
                exact ⟨number, earlier, (stays object changed present edit).2.trans version⟩
              · exact issued other found holds

/-! ## Other writers -/

/-- What other clients make of a store by seeding it and by calls of any kind. -/
inductive Written (s : Store) : Store → Prop
  | none : Written s s
  | seeded {before : Store} (earlier : Written s before) (kind : ResourceKind) (object : Json) :
      Written s (before.seed kind object).2
  | called {before : Store} (earlier : Written s before) (call : ClientCall) :
      Written s (before.answer call).2

theorem Written.inOrder (written : Written s after) (inOrder : s.InOrder) : after.InOrder := by
  induction written with
  | none => exact inOrder
  | seeded earlier kind object before => exact (Change.refl.seed kind object).inOrder before
  | called earlier call before => exact (answer_change _ call).inOrder before

theorem Written.ages (written : Written s after) (inOrder : s.InOrder) : s.Ages after := by
  induction written with
  | none => exact .refl s
  | seeded earlier kind object ages => exact ages.trans (ages_seed _ kind object)
  | called earlier call ages => exact ages.trans (ages_answer (earlier.inOrder inOrder) call)

/-- An object that is not the one that was there before has another version. -/
theorem Ages.version_ne {live : Json} (ages : s.Ages after) (issued : s.Issued)
    (found : s.get? at_ = some live) (now : after.get? at_ = some object)
    (different : object ≠ live) : object.version? ≠ live.version? := by
  rcases ages.objects at_ object now with old | ⟨number, fresh, -, version⟩
  · rw [found] at old
    cases old
    exact absurd rfl different
  · obtain ⟨earlier, before, version'⟩ := issued at_ live found
    intro same
    rw [version, version'] at same
    cases Decimal.natText_inj.1 (Json.str.inj (Option.some.inj same))
    omega

end Store

end AppOperator
