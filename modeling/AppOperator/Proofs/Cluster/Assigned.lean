import AppOperator.Proofs.Cluster.Calls

/-!
# Assigned metadata

A store assigns versions, and identities to objects that come without one.  A write at a
place is answered in the same way by all stores that have the same object there and the
same failures, and what it stores differs in nothing but what they assign
(`Store.WrittenAlike`).
-/

set_option autoImplicit false

namespace AppOperator

namespace Fields

variable {fields : Fields} {name other : String}

theorem set_set (fields : Fields) (name : String) (old value : Json) :
    set (set fields name old) name value = set fields name value := by
  induction fields with
  | nil => simp [set]
  | cons field rest tail =>
      obtain ⟨key, held⟩ := field
      by_cases same : key = name
      · simp [set, same]
      · simp [set, same, tail]

theorem erase_set_self (fields : Fields) (name : String) (value : Json) :
    erase (set fields name value) name = erase fields name := by
  induction fields with
  | nil => simp [set, erase]
  | cons field rest tail =>
      obtain ⟨key, held⟩ := field
      by_cases same : key = name
      · simp [set, same, erase]
      · simpa [set, same, erase] using tail

theorem erase_set_of_ne (fields : Fields) (value : Json) (different : other ≠ name) :
    erase (set fields name value) other = set (erase fields other) name value := by
  induction fields with
  | nil => simp [set, erase, Ne.symm different]
  | cons field rest tail =>
      obtain ⟨key, held⟩ := field
      simp only [erase] at tail
      by_cases same : key = name
      · subst same
        simp [set, erase, Ne.symm different]
      · by_cases erased : key = other
        · simpa [set, erase, same, erased, different] using tail
        · simp [set, erase, same, erased, tail]

def without (fields : Fields) (names : List String) : Fields :=
  names.foldl erase fields

theorem without_set {names : List String} (among : name ∈ names) (value : Json) :
    (set fields name value).without names = fields.without names := by
  induction names generalizing fields with
  | nil => cases among
  | cons first rest ih =>
      simp only [without, List.foldl_cons]
      by_cases same : name = first
      · rw [same, erase_set_self]
      · have later : name ∈ rest := (List.mem_cons.1 among).resolve_left same
        rw [erase_set_of_ne fields value (Ne.symm same)]
        exact ih later

end Fields

namespace Json

/-- A document but for some of the names in its metadata. -/
def withoutMetadata (names : List String) (x : Json) : Json :=
  match x with
  | .obj fields =>
      match Fields.get? fields "metadata" with
      | some (.obj metadata) =>
          .obj (Fields.set fields "metadata" (.obj (Fields.without metadata names)))
      | _ => .obj fields
  | other => other

variable {fields metadata : Fields} {names : List String}

theorem withoutMetadata_obj (has : Fields.get? fields "metadata" = some (.obj metadata)) :
    (Json.obj fields).withoutMetadata names =
      .obj (Fields.set fields "metadata" (.obj (metadata.without names))) := by
  simp only [withoutMetadata, has]

theorem withoutMetadata_set (fields metadata : Fields) (names : List String) :
    (Json.obj (Fields.set fields "metadata" (.obj metadata))).withoutMetadata names =
      .obj (Fields.set fields "metadata" (.obj (metadata.without names))) := by
  rw [withoutMetadata_obj (Fields.get?_set_self fields "metadata" _), Fields.set_set]

theorem field?_withoutMetadata (x : Json) {name : String} (beside : name ≠ "metadata") :
    (x.withoutMetadata names).field? name = x.field? name := by
  unfold withoutMetadata
  split
  · split
    · exact Fields.get?_set_of_ne _ _ beside
    · rfl
  · rfl

/-- A declaration but for its status and its version. -/
def declared (x : Json) : Json :=
  match x.withoutMetadata ["resourceVersion"] with
  | .obj fields => .obj (Fields.erase fields "status")
  | other => other

theorem declared_set_status (has : Fields.get? fields "metadata" = some (.obj metadata))
    (status version : Json) :
    (Json.obj (Fields.set (Fields.set fields "status" status) "metadata"
      (.obj (Fields.set metadata "resourceVersion" version)))).declared =
        (Json.obj fields).declared := by
  have unversioned : (Fields.set metadata "resourceVersion" version).without ["resourceVersion"] =
      metadata.without ["resourceVersion"] := Fields.without_set (by decide) version
  simp only [declared, withoutMetadata_set, withoutMetadata_obj has, unversioned]
  rw [Fields.erase_set_of_ne _ _ (by decide), Fields.erase_set_self,
    Fields.erase_set_of_ne _ _ (by decide)]

end Json

namespace Store

/-- What a store assigns to an object that it writes, given what it has held in its place. -/
def assignedNames (before : Option Json) : List String :=
  if before.isSome then ["resourceVersion"] else ["resourceVersion", "uid"]

/-- The same up to what a store assigns. -/
def AlikeSince (before x y : Option Json) : Prop :=
  x.map (Json.withoutMetadata (assignedNames before)) =
    y.map (Json.withoutMetadata (assignedNames before))

variable {s t : Store} {at_ : ObjectPlace} {kind : ResourceKind} {object : Json}

/-! ## Writes in two stores -/

/-- Stores that have the same failures and the same object at a place. -/
structure AgreeAt (at_ : ObjectPlace) (s t : Store) : Prop where
  inOrder : s.InOrder
  failures : t.failures = s.failures
  object : t.get? at_ = s.get? at_

/-- Both stores refuse a write, or both store an object at the place, the same up to what
they assign. -/
inductive WrittenAlike (at_ : ObjectPlace) (s t : Store) : Reply × Store → Reply × Store → Prop
  | refused (fault : Fault) {s' t' : Store} (objects : s'.objects = s.objects)
      (objects' : t'.objects = t.objects) : WrittenAlike at_ s t (.error fault, s') (.error fault, t')
  | written {x y : Json} {s' t' : Store} (wrote : Wrote s at_ x s') (wrote' : Wrote t at_ y t')
      (alike : x.withoutMetadata (assignedNames (s.get? at_)) =
        y.withoutMetadata (assignedNames (s.get? at_))) :
      WrittenAlike at_ s t (.ok x, s') (.ok y, t')

theorem answering_writtenAlike {operation : Operation}
    {answer : Store → ObjectPlace → Reply × Store} (agree : AgreeAt at_ s t)
    (answers : usable at_ = .ok at_ → WrittenAlike at_ s t
      (answer (s.record operation kind at_.namespaceName at_.name) at_)
      (answer (t.record operation kind at_.namespaceName at_.name) at_)) :
    WrittenAlike at_ s t (s.answering operation kind at_ answer)
      (t.answering operation kind at_ answer) := by
  have here : (s.record operation kind at_.namespaceName at_.name).failure? operation kind =
      s.failure? operation kind := rfl
  have there : (t.record operation kind at_.namespaceName at_.name).failure? operation kind =
      s.failure? operation kind := failure?_of_failures agree.failures operation kind
  simp only [answering, here, there]
  split
  · exact .refused _ rfl rfl
  · cases usable_ : usable at_ with
    | error fault => exact .refused _ rfl rfl
    | ok found =>
        obtain ⟨rfl, -⟩ := usable_eq_ok_iff.1 usable_
        exact answers usable_

theorem seededObject_alike {before : Store} (fields metadata : Fields) :
    (s.seededObject fields metadata).withoutMetadata ["resourceVersion", "uid"] =
      (before.seededObject fields metadata).withoutMetadata ["resourceVersion", "uid"] := by
  have same : ∀ (uid version : String),
      (seededMetadata metadata uid version).without ["resourceVersion", "uid"] =
        (withDefault metadata "namespace" (.str "default")).without ["resourceVersion", "uid"] := by
    intro uid version
    rw [seededMetadata, Fields.without_set (by decide)]
    generalize withDefault metadata "namespace" (.str "default") = fields
    unfold withDefault
    split
    · rfl
    · exact Fields.without_set (by decide) _
  rw [seededObject, seededObject, Json.withoutMetadata_set, Json.withoutMetadata_set, same, same]

theorem create_writtenAlike (agree : AgreeAt at_ s t) (stated : statedPlace kind object = .ok at_) :
    WrittenAlike at_ s t (s.create kind object) (t.create kind object) := by
  simp only [create, stated]
  refine answering_writtenAlike agree ?_
  intro usable_
  have here := @get?_of_objects s (s.record .create kind at_.namespaceName at_.name) rfl at_
  have there := @get?_of_objects t (t.record .create kind at_.namespaceName at_.name) rfl at_
  rw [here, there, agree.object]
  cases found : s.get? at_ with
  | some live => exact .refused _ rfl rfl
  | none =>
      obtain ⟨fields, metadata, name, rfl, has, named, place⟩ := statedPlace_eq_ok_iff.1 stated
      have kept : ∀ before : Store, KeptAt at_ (before.seededObject fields metadata) :=
        fun before => keptAt_seededObject named usable_ place
      have seeded : ∀ before : Store, before.seed kind (.obj fields) = _ :=
        fun before => seed_obj_of_stated has named usable_ place
      simp only [Option.isSome_none, Bool.false_eq_true, if_false, seeded]
      refine .written (wrote_put rfl rfl fun _ => kept _) (wrote_put rfl rfl fun _ => kept _) ?_
      rw [found]
      exact seededObject_alike fields metadata

theorem withVersion_alike {version version' : Json} {x y : Json} (before : Option Json)
    (first : withVersion object version = .ok x) (second : withVersion object version' = .ok y) :
    x.withoutMetadata (assignedNames before) = y.withoutMetadata (assignedNames before) := by
  obtain ⟨fields, metadata, rfl, has, rfl⟩ := withVersion_eq_ok_iff.1 first
  obtain ⟨own, data, same, has', rfl⟩ := withVersion_eq_ok_iff.1 second
  cases same
  rw [has] at has'
  cases has'
  have assigned : "resourceVersion" ∈ assignedNames before := by
    unfold assignedNames
    split <;> decide
  rw [Json.withoutMetadata_set, Json.withoutMetadata_set, Fields.without_set assigned,
    Fields.without_set assigned]

theorem update_writtenAlike (agree : AgreeAt at_ s t) (stated : statedPlace kind object = .ok at_) :
    WrittenAlike at_ s t (s.update kind object) (t.update kind object) := by
  simp only [update, stated]
  refine answering_writtenAlike agree ?_
  intro usable_
  have here := @get?_of_objects s (s.record .update kind at_.namespaceName at_.name) rfl at_
  have there := @get?_of_objects t (t.record .update kind at_.namespaceName at_.name) rfl at_
  rw [here, there, agree.object]
  cases found : s.get? at_ with
  | none => exact .refused _ rfl rfl
  | some live =>
      dsimp only
      split
      · exact .refused _ rfl rfl
      · exact .refused _ rfl rfl
      · obtain ⟨fields, metadata, name, rfl, has, named, place⟩ := statedPlace_eq_ok_iff.1 stated
        have marks : ∀ version, withVersion (.obj fields) version = .ok _ :=
          fun version => withVersion_eq_ok_iff.2 ⟨_, metadata, rfl, has, rfl⟩
        simp only [takeVersion, marks]
        refine .written (wrote_put rfl rfl fun _ => keptAt_of_stated stated usable_ (marks _))
          (wrote_put rfl rfl fun _ => keptAt_of_stated stated usable_ (marks _)) ?_
        exact withVersion_alike _ (marks _) (marks _)

theorem updateStatus_writtenAlike (agree : AgreeAt at_ s t)
    (stated : statedPlace kind object = .ok at_) :
    WrittenAlike at_ s t (s.updateStatus kind object) (t.updateStatus kind object) := by
  simp only [updateStatus, stated]
  refine answering_writtenAlike agree ?_
  intro usable_
  have here := @get?_of_objects s (s.record .updateStatus kind at_.namespaceName at_.name) rfl at_
  have there := @get?_of_objects t (t.record .updateStatus kind at_.namespaceName at_.name) rfl at_
  rw [here, there, agree.object]
  cases found : s.get? at_ with
  | none => exact .refused _ rfl rfl
  | some live =>
      have found' : t.get? at_ = some live := agree.object.trans found
      dsimp only
      split
      · next status fields sent =>
          have kept := keptAt_marked found status agree.inOrder
          obtain ⟨metadata, has, -⟩ := kept.record_inj
          have marks : ∀ version, withVersion (.obj (Fields.set fields "status" status)) version =
              .ok _ := fun version => withVersion_eq_ok_iff.2 ⟨_, metadata, rfl, has, rfl⟩
          simp only [takeVersion, marks]
          refine .written (Wrote.again (wrote_put rfl rfl fun _ => kept) rfl rfl
              fun _ => kept.withVersion (marks _))
            (Wrote.again (wrote_put rfl rfl fun _ => kept) rfl rfl
              fun _ => kept.withVersion (marks _)) ?_
          exact withVersion_alike _ (marks _) (marks _)
      · exact .refused _ rfl rfl
      · exact .refused _ rfl rfl

/-- The place that a call writes at. -/
def writtenPlace? : ClientCall → Option ObjectPlace
  | .create kind object | .update kind object | .updateStatus kind object =>
      (statedPlace kind object).toOption
  | .get .. | .delete .. => none

theorem answer_writtenAlike {call : ClientCall} (agree : AgreeAt at_ s t)
    (written : writtenPlace? call = some at_) :
    WrittenAlike at_ s t (s.answer call) (t.answer call) := by
  have states : ∀ {kind object}, (statedPlace kind object).toOption = some at_ →
      statedPlace kind object = .ok at_ := by
    intro kind object written
    cases stated : statedPlace kind object with
    | error fault =>
        rw [stated] at written
        cases written
    | ok own =>
        rw [stated] at written
        cases written
        rfl
  cases call with
  | get kind namespaceName name => cases written
  | create kind object => exact create_writtenAlike agree (states written)
  | update kind object => exact update_writtenAlike agree (states written)
  | updateStatus kind object => exact updateStatus_writtenAlike agree (states written)
  | delete kind namespaceName name => cases written

end Store

end AppOperator
