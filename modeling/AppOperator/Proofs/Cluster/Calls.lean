import AppOperator.Proofs.Cluster.Lookup

/-!
# What calls do to the stored objects

Every stored object states the place it is kept at and a version
(`Store.InOrder`).  An empty cluster is in order and whatever is done to a
cluster keeps it so (`Store.Reached.inOrder`).  For each call there is one lemma
that says what a call that goes through has found and what it leaves behind, and
one that says when it goes through.
-/

set_option autoImplicit false

namespace AppOperator

namespace Store

/-- Metadata that states a place and a version. -/
structure Names (at_ : ObjectPlace) (metadata : Fields) : Prop where
  name : ∃ name, Fields.get? metadata "name" = some name ∧ name.keyForm = at_.name.keyForm
  namespaceName :
    ((Fields.get? metadata "namespace").getD (.str "default")).keyForm = at_.namespaceName.keyForm
  version : ∃ version, Fields.get? metadata "resourceVersion" = some (.str version)

/-- An object that states the place it is kept at. -/
structure KeptAt (at_ : ObjectPlace) (object : Json) : Prop where
  usable : usable at_ = .ok at_
  states : ∃ fields metadata, object = .obj fields ∧
    Fields.get? fields "metadata" = some (.obj metadata) ∧ Names at_ metadata

/-- Every object is kept at the place that it states. -/
def InOrder (s : Store) : Prop :=
  ∀ at_ object, s.get? at_ = some object → KeptAt at_ object

variable {s after : Store} {at_ other : ObjectPlace} {kind : ResourceKind}
  {object written : Json} {fields metadata : Fields}

namespace KeptAt

theorem congr (agree : (at_ == other) = true) (kept : KeptAt at_ object) :
    KeptAt other object := by
  obtain ⟨-, sameNamespace, sameName⟩ := (ObjectPlace.beq_iff at_ other).1 agree
  obtain ⟨fields, metadata, same, has, names⟩ := kept.states
  obtain ⟨name, named, agrees⟩ := names.name
  exact {
    usable := usable_congr agree kept.usable
    states := ⟨fields, metadata, same, has, {
      name := ⟨name, named, agrees.trans sameName⟩
      namespaceName := names.namespaceName.trans sameNamespace
      version := names.version }⟩ }

theorem record_inj (kept : KeptAt at_ (.obj fields)) : ∃ metadata,
    Fields.get? fields "metadata" = some (.obj metadata) ∧ Names at_ metadata := by
  obtain ⟨own, metadata, same, has, names⟩ := kept.states
  cases same
  exact ⟨metadata, has, names⟩

/-- What is written next to the metadata does not move an object. -/
theorem set {name : String} (kept : KeptAt at_ (.obj fields)) (value : Json)
    (other : "metadata" ≠ name) : KeptAt at_ (.obj (Fields.set fields name value)) := by
  obtain ⟨metadata, has, names⟩ := kept.record_inj
  have still : Fields.get? (Fields.set fields name value) "metadata" = some (.obj metadata) := by
    rw [Fields.get?_set_of_ne fields value other, has]
  exact ⟨kept.usable, _, metadata, rfl, still, names⟩

/-- The place that a stored object states is the place it is kept at. -/
theorem statedPlace_eq (kept : KeptAt at_ object) (sameKind : kind.name = at_.kind) :
    ∃ own, statedPlace kind object = .ok own ∧ (own == at_) = true := by
  obtain ⟨fields, metadata, rfl, has, names⟩ := kept.states
  obtain ⟨name, named, agrees⟩ := names.name
  refine ⟨_, statedPlace_eq_ok_iff.2 ⟨fields, metadata, name, rfl, has, named, rfl⟩, ?_⟩
  exact (ObjectPlace.beq_iff _ _).2 ⟨sameKind, names.namespaceName, agrees⟩

end KeptAt

namespace Names

/-- A new version does not move an object. -/
theorem setVersion (names : Names at_ metadata) (version : String) :
    Names at_ (Fields.set metadata "resourceVersion" (.str version)) where
  name := by
    obtain ⟨name, named, agrees⟩ := names.name
    exact ⟨name, by rw [Fields.get?_set_of_ne _ _ (by decide), named], agrees⟩
  namespaceName := by
    rw [Fields.get?_set_of_ne _ _ (by decide)]
    exact names.namespaceName
  version := ⟨version, Fields.get?_set_self _ _ _⟩

end Names

/-! ## Stores in order -/

/-- An edit behind a name changes the field of that name. -/
theorem eq_set_of_editAt {name : String} {rest : List Json} {value changed : Json}
    (written : editAt (some value) (.str name :: rest) (.obj fields) = .ok changed) :
    ∃ new, changed = .obj (Fields.set fields name new) := by
  cases rest with
  | nil =>
      cases written
      exact ⟨value, rfl⟩
  | cons next rest =>
      simp only [editAt] at written
      split at written
      · cases written
      · next inner _ =>
          cases changes : editAt (some value) (next :: rest) inner with
          | error fault =>
              rw [changes] at written
              cases written
          | ok new =>
              rw [changes] at written
              cases written
              exact ⟨new, rfl⟩

namespace InOrder

theorem put (inOrder : s.InOrder) (kept : KeptAt at_ object) : (s.put at_ object).InOrder := by
  intro other found holds
  rw [get?_put] at holds
  split at holds
  · next agree =>
      cases holds
      exact kept.congr agree
  · exact inOrder other found holds

theorem remove (inOrder : s.InOrder) (at_ : ObjectPlace) : (s.remove at_).InOrder := by
  intro other found holds
  rw [get?_remove] at holds
  split at holds
  · cases holds
  · exact inOrder other found holds

/-- An edit next to the metadata moves no object. -/
theorem edit {name : String} {rest : List Json} {value : Json} (inOrder : s.InOrder)
    (beside : "metadata" ≠ name) : (s.edit at_ (.str name :: rest) (some value)).2.InOrder := by
  unfold Store.edit
  split
  · exact inOrder
  · next object found =>
      have kept := inOrder at_ object found
      obtain ⟨fields, metadata, rfl, -⟩ := kept.states
      split
      · exact inOrder
      · next changed written =>
          obtain ⟨new, rfl⟩ := eq_set_of_editAt written
          exact inOrder.put (kept.set new beside)

theorem of_objects (inOrder : s.InOrder) (same : after.objects = s.objects) : after.InOrder := by
  intro other found holds
  refine inOrder other found ?_
  rw [← holds]
  simp only [get?, same]

end InOrder

theorem get?_of_objects (same : after.objects = s.objects) (at_ : ObjectPlace) :
    after.get? at_ = s.get? at_ := by
  simp only [get?, same]

theorem failure?_of_failures (same : after.failures = s.failures) (operation : Operation)
    (kind : ResourceKind) : after.failure? operation kind = s.failure? operation kind := by
  simp only [failure?, same]

theorem failure?_of_quiet (quiet : s.failures = []) (operation : Operation) (kind : ResourceKind) :
    s.failure? operation kind = none := by
  simp only [failure?, quiet, List.find?_nil, Option.map_none]

/-- One object is written, and nothing else of the objects and failures changes. -/
structure Wrote (s : Store) (at_ : ObjectPlace) (object : Json) (after : Store) : Prop where
  here : after.get? at_ = some object
  elsewhere : ∀ other, (at_ == other) = false → after.get? other = s.get? other
  failures : after.failures = s.failures
  inOrder : s.InOrder → after.InOrder

/-- A write into a store with the same objects. -/
theorem wrote_put {before : Store} (objects : before.objects = s.objects)
    (failures : before.failures = s.failures) (kept : s.InOrder → KeptAt at_ object) :
    Wrote s at_ object (before.put at_ object) where
  here := get?_put_self before at_ object
  elsewhere := by
    intro other different
    rw [get?_put_of_ne object different, get?_of_objects objects]
  failures := failures
  inOrder := by
    intro inOrder
    exact (inOrder.of_objects objects).put (kept inOrder)

/-- A second write to the same place. -/
theorem Wrote.again {before next : Store} (wrote : Wrote s at_ object before)
    (objects : next.objects = before.objects) (failures : next.failures = before.failures)
    (kept : s.InOrder → KeptAt at_ written) : Wrote s at_ written (next.put at_ written) where
  here := get?_put_self next at_ written
  elsewhere := by
    intro other different
    rw [get?_put_of_ne written different, get?_of_objects objects]
    exact wrote.elsewhere other different
  failures := failures.trans wrote.failures
  inOrder := by
    intro inOrder
    exact ((wrote.inOrder inOrder).of_objects objects).put (kept inOrder)

/-! ## The answer to a call -/

section Answering

variable {operation : Operation} {answer : Store → ObjectPlace → Reply × Store}

/-- A call fails without effect, or it is answered after it has been recorded. -/
theorem answering_cases {P : Reply × Store → Prop}
    (failed : ∀ fault, P (.error fault, s.record operation kind at_.namespaceName at_.name))
    (answered : s.failure? operation kind = none → usable at_ = .ok at_ →
      P (answer (s.record operation kind at_.namespaceName at_.name) at_)) :
    P (s.answering operation kind at_ answer) := by
  have same : (s.record operation kind at_.namespaceName at_.name).failure? operation kind =
      s.failure? operation kind := rfl
  simp only [answering, same]
  cases arranged : s.failure? operation kind with
  | some fault => exact failed fault
  | none =>
      cases found : usable at_ with
      | error fault => exact failed fault
      | ok found' =>
          obtain ⟨rfl, -⟩ := usable_eq_ok_iff.1 found
          exact answered arranged found

theorem answering_of_ok (quiet : s.failure? operation kind = none)
    (usable_ : usable at_ = .ok at_) : s.answering operation kind at_ answer =
      answer (s.record operation kind at_.namespaceName at_.name) at_ := by
  have same : (s.record operation kind at_.namespaceName at_.name).failure? operation kind =
      s.failure? operation kind := rfl
  simp only [answering, same, quiet, usable_]

theorem answering_eq_ok_iff : s.answering operation kind at_ answer = (.ok object, after) ↔
    s.failure? operation kind = none ∧ usable at_ = .ok at_ ∧
      answer (s.record operation kind at_.namespaceName at_.name) at_ = (.ok object, after) := by
  constructor
  · refine answering_cases (P := fun result => result = (.ok object, after) → _) ?_ ?_
    · intro fault impossible
      cases impossible
    · intro quiet usable_ answered
      exact ⟨quiet, usable_, answered⟩
  · rintro ⟨quiet, usable_, answered⟩
    rw [answering_of_ok quiet usable_, answered]

end Answering

/-! ## Storing a new object -/

theorem get?_withDefault_self (fields : Fields) (name : String) (value : Json) :
    Fields.get? (withDefault fields name value) name =
      some ((Fields.get? fields name).getD value) := by
  cases found : Fields.get? fields name with
  | some old => simp [withDefault, found]
  | none => simp [withDefault, found, Fields.get?_set_self]

theorem get?_withDefault_of_ne (fields : Fields) {name other : String} (value : Json)
    (different : other ≠ name) :
    Fields.get? (withDefault fields name value) other = Fields.get? fields other := by
  unfold withDefault
  split
  · rfl
  · rw [Fields.get?_set_of_ne fields value different]

/-- The metadata that an object is stored with. -/
def seededMetadata (metadata : Fields) (uid : String) (version : String) : Fields :=
  Fields.set (withDefault (withDefault metadata "namespace" (.str "default")) "uid" (.str uid))
    "resourceVersion" (.str version)

theorem get?_seededMetadata {name : String} (uid version : String) (notNamespace : name ≠ "namespace")
    (notUid : name ≠ "uid") (notVersion : name ≠ "resourceVersion") :
    Fields.get? (seededMetadata metadata uid version) name = Fields.get? metadata name := by
  unfold seededMetadata
  rw [Fields.get?_set_of_ne _ _ notVersion, get?_withDefault_of_ne _ _ notUid,
    get?_withDefault_of_ne _ _ notNamespace]

theorem get?_seededMetadata_namespace (uid version : String) :
    Fields.get? (seededMetadata metadata uid version) "namespace" =
      some ((Fields.get? metadata "namespace").getD (.str "default")) := by
  unfold seededMetadata
  rw [Fields.get?_set_of_ne _ _ (by decide), get?_withDefault_of_ne _ _ (by decide),
    get?_withDefault_self]

/-- The store whose next version and identity have been given away. -/
def counted (s : Store) : Store :=
  { s with nextUid := s.nextUid + 1, nextVersion := s.nextVersion + 1 }

/-- The object that a record is stored as. -/
def seededObject (s : Store) (fields metadata : Fields) : Json :=
  .obj (Fields.set (withDefault fields "metadata" (.obj [])) "metadata"
    (.obj (seededMetadata metadata ("uid-" ++ Decimal.natText s.nextUid)
      (Decimal.natText s.nextVersion))))

theorem field?_seededObject {name : String} (beside : name ≠ "metadata") :
    (seededObject s fields metadata).field? name = (Json.obj fields).field? name := by
  simp only [seededObject, Json.field?]
  rw [Fields.get?_set_of_ne _ _ beside, get?_withDefault_of_ne _ _ beside]

theorem keptAt_seededObject {name : Json} (named : Fields.get? metadata "name" = some name)
    (usable_ : usable at_ = .ok at_)
    (place : at_ = ⟨kind.name, (Fields.get? metadata "namespace").getD (.str "default"), name⟩) :
    KeptAt at_ (seededObject s fields metadata) where
  usable := usable_
  states := by
    refine ⟨_, _, rfl, Fields.get?_set_self _ _ _, ?_⟩
    subst place
    exact {
      name := ⟨name, by rw [get?_seededMetadata _ _ (by decide) (by decide) (by decide), named], rfl⟩
      namespaceName := by rw [get?_seededMetadata_namespace]; rfl
      version := ⟨_, Fields.get?_set_self _ _ _⟩ }

theorem seed_obj (part : (Fields.get? fields "metadata").getD (.obj []) = .obj metadata) :
    s.seed kind (.obj fields) =
      match Fields.get? metadata "name" with
      | none => (.error (.missingField "name"), s.counted)
      | some name =>
          match usable ⟨kind.name, (Fields.get? metadata "namespace").getD (.str "default"), name⟩ with
          | .error fault => (.error fault, s.counted)
          | .ok at_ =>
              (.ok (s.seededObject fields metadata),
                s.counted.put at_ (s.seededObject fields metadata)) := by
  have extended : (Fields.get? (withDefault fields "metadata" (.obj [])) "metadata").getD .null =
      .obj metadata := by
    rw [get?_withDefault_self, Option.getD_some, part]
  have nameOf := @get?_seededMetadata metadata "name" ("uid-" ++ Decimal.natText s.nextUid)
    (Decimal.natText s.nextVersion) (by decide) (by decide) (by decide)
  have namespaceOf := @get?_seededMetadata_namespace metadata
    ("uid-" ++ Decimal.natText s.nextUid) (Decimal.natText s.nextVersion)
  unfold seededMetadata at nameOf namespaceOf
  simp only [seed, fieldsToExtend, extended, pure, Except.pure, bind, Except.bind, takeVersion,
    Json.entry, nameOf, namespaceOf, Option.getD_some, usable]
  cases Fields.get? metadata "name" with
  | none => rfl
  | some name => rfl

theorem seed_obj_of_stated {name : Json} (has : Fields.get? fields "metadata" = some (.obj metadata))
    (named : Fields.get? metadata "name" = some name) (usable_ : usable at_ = .ok at_)
    (place : at_ = ⟨kind.name, (Fields.get? metadata "namespace").getD (.str "default"), name⟩) :
    s.seed kind (.obj fields) = (.ok (s.seededObject fields metadata),
      s.counted.put at_ (s.seededObject fields metadata)) := by
  have part : (Fields.get? fields "metadata").getD (.obj []) = .obj metadata := by
    rw [has, Option.getD_some]
  rw [seed_obj part, named]
  simp only [← place, usable_]

/-- An object that states a place that can be looked up is stored there. -/
theorem seed_of_stated (stated : statedPlace kind object = .ok at_) (usable_ : usable at_ = .ok at_) :
    ∃ written, s.seed kind object = (.ok written, s.counted.put at_ written) ∧
      KeptAt at_ written ∧
      ∀ name, name ≠ "metadata" → written.field? name = object.field? name := by
  obtain ⟨fields, metadata, name, rfl, has, named, place⟩ := statedPlace_eq_ok_iff.1 stated
  exact ⟨s.seededObject fields metadata, seed_obj_of_stated has named usable_ place,
    keptAt_seededObject named usable_ place, fun other beside => field?_seededObject beside⟩

/-- Any other object is refused. -/
theorem seed_of_unstated
    (unstated : ∀ at_, statedPlace kind object = .ok at_ → usable at_ ≠ .ok at_) :
    ∃ fault after, s.seed kind object = (.error fault, after) ∧ after.objects = s.objects ∧
      after.failures = s.failures := by
  cases object with
  | obj fields =>
      have extended : (Fields.get? (withDefault fields "metadata" (.obj [])) "metadata").getD .null =
          (Fields.get? fields "metadata").getD (.obj []) := by
        rw [get?_withDefault_self, Option.getD_some]
      cases part : (Fields.get? fields "metadata").getD (.obj []) with
      | obj metadata =>
          rw [seed_obj part]
          cases named : Fields.get? metadata "name" with
          | none => exact ⟨_, _, rfl, rfl, rfl⟩
          | some name =>
              have has : Fields.get? fields "metadata" = some (.obj metadata) := by
                cases found : Fields.get? fields "metadata" with
                | some value => rw [found, Option.getD_some] at part; rw [part]
                | none =>
                    rw [found, Option.getD_none] at part
                    cases part
                    cases named
              have stated : statedPlace kind (.obj fields) = .ok ⟨kind.name,
                  (Fields.get? metadata "namespace").getD (.str "default"), name⟩ :=
                statedPlace_eq_ok_iff.2 ⟨fields, metadata, name, rfl, has, named, rfl⟩
              cases found : usable ⟨kind.name,
                  (Fields.get? metadata "namespace").getD (.str "default"), name⟩ with
              | error fault =>
                  refine ⟨fault, s.counted, ?_, rfl, rfl⟩
                  simp only [found]
              | ok at_ =>
                  obtain ⟨rfl, -⟩ := usable_eq_ok_iff.1 found
                  exact absurd found (unstated _ stated)
      | _ =>
          simp only [seed, fieldsToExtend, extended, part, bind, Except.bind]
          exact ⟨_, _, rfl, rfl, rfl⟩
  | _ => exact ⟨_, _, rfl, rfl, rfl⟩

/-! ## Reading -/

variable {namespaceName name : Json}

theorem get_snd : (s.get kind namespaceName name).2 = s.record .get kind namespaceName name := by
  unfold get
  refine answering_cases (P := fun result => result.2 = _) ?_ ?_
  · intro fault
    rfl
  · intro quiet usable_
    split <;> rfl

/-- The answer to a read. -/
theorem get_fst : (s.get kind namespaceName name).1 =
    match s.failure? .get kind with
    | some fault => .error fault
    | none =>
        match usable ⟨kind.name, namespaceName, name⟩ with
        | .error fault => .error fault
        | .ok at_ =>
            match s.get? at_ with
            | some object => .ok object
            | none =>
                .error (.api (.missing (kind.plural ++ " " ++ name.shown ++ " not found"))) := by
  have same : (s.record .get kind namespaceName name).failure? .get kind =
      s.failure? .get kind := rfl
  have recorded : ∀ at_, (s.record .get kind namespaceName name).get? at_ = s.get? at_ :=
    get?_of_objects rfl
  simp only [get, answering, same]
  cases s.failure? .get kind with
  | some fault => rfl
  | none =>
      cases usable ⟨kind.name, namespaceName, name⟩ with
      | error fault => rfl
      | ok at_ =>
          simp only [recorded]
          cases s.get? at_ <;> rfl

theorem get_eq_ok_iff : (s.get kind namespaceName name).1 = .ok object ↔
    s.failure? .get kind = none ∧
      usable ⟨kind.name, namespaceName, name⟩ = .ok ⟨kind.name, namespaceName, name⟩ ∧
      s.get? ⟨kind.name, namespaceName, name⟩ = some object := by
  rw [get_fst]
  constructor
  · intro answered
    split at answered
    · cases answered
    · next quiet =>
        split at answered
        · cases answered
        · next at_ usable_ =>
            obtain ⟨rfl, -⟩ := usable_eq_ok_iff.1 usable_
            split at answered
            · next found =>
                cases answered
                exact ⟨quiet, usable_, found⟩
            · cases answered
  · rintro ⟨quiet, usable_, found⟩
    simp only [quiet, usable_, found]

theorem get_of_absent (quiet : s.failure? .get kind = none)
    (usable_ : usable ⟨kind.name, namespaceName, name⟩ = .ok ⟨kind.name, namespaceName, name⟩)
    (absent : s.get? ⟨kind.name, namespaceName, name⟩ = none) :
    ∃ error, (s.get kind namespaceName name).1 = .error (.api error) ∧ error.notFound = true := by
  rw [get_fst]
  simp only [quiet, usable_, absent]
  exact ⟨_, rfl, rfl⟩

/-! ## Creating -/

/-- What a create that goes through has found and done. -/
theorem create_eq_ok (created : s.create kind object = (.ok written, after)) : ∃ at_,
    statedPlace kind object = .ok at_ ∧ s.failure? .create kind = none ∧ s.get? at_ = none ∧
      Wrote s at_ written after ∧
      ∀ name, name ≠ "metadata" → written.field? name = object.field? name := by
  unfold create at created
  split at created
  · cases created
  · next at_ stated =>
      obtain ⟨quiet, usable_, created⟩ := answering_eq_ok_iff.1 created
      have recorded := @get?_of_objects s
        (s.record .create kind at_.namespaceName at_.name) rfl at_
      rw [recorded] at created
      split at created
      · cases created
      · next absent =>
          have free : s.get? at_ = none := by simpa using absent
          obtain ⟨object', seeded, kept, beside⟩ := seed_of_stated
            (s := s.record .create kind at_.namespaceName at_.name) stated usable_
          rw [seeded] at created
          cases created
          exact ⟨at_, stated, quiet, free, wrote_put rfl rfl fun _ => kept, beside⟩

/-- An object that states a free place can be created. -/
theorem create_of_absent (stated : statedPlace kind object = .ok at_)
    (usable_ : usable at_ = .ok at_) (quiet : s.failure? .create kind = none)
    (absent : s.get? at_ = none) : ∃ written after, s.create kind object = (.ok written, after) := by
  have recorded := @get?_of_objects s (s.record .create kind at_.namespaceName at_.name) rfl at_
  obtain ⟨written, seeded, -, -⟩ := seed_of_stated
    (s := s.record .create kind at_.namespaceName at_.name) stated usable_
  refine ⟨written, (s.record .create kind at_.namespaceName at_.name).counted.put at_ written, ?_⟩
  simp only [create, stated]
  rw [answering_of_ok quiet usable_, recorded, absent]
  exact seeded

/-! ## Updating -/

theorem withVersion_eq_ok_iff {version : Json} : withVersion object version = .ok written ↔
    ∃ fields metadata, object = .obj fields ∧
      Fields.get? fields "metadata" = some (.obj metadata) ∧
      written = .obj (Fields.set fields "metadata"
        (.obj (Fields.set metadata "resourceVersion" version))) := by
  constructor
  · intro marked
    unfold withVersion at marked
    split at marked
    · next fields =>
        split at marked
        · next metadata has =>
            cases marked
            exact ⟨fields, metadata, rfl, has, rfl⟩
        · cases marked
        · cases marked
    · cases marked
  · rintro ⟨fields, metadata, rfl, has, rfl⟩
    simp only [withVersion, has]

/-- An object with a new version stays where it is. -/
theorem KeptAt.withVersion {version : String} (kept : KeptAt at_ object)
    (marked : withVersion object (.str version) = .ok written) : KeptAt at_ written := by
  obtain ⟨fields, metadata, rfl, has, rfl⟩ := withVersion_eq_ok_iff.1 marked
  obtain ⟨own, states, names⟩ := kept.record_inj
  rw [has] at states
  cases states
  exact ⟨kept.usable, _, _, rfl, Fields.get?_set_self _ _ _, names.setVersion version⟩

theorem field?_withVersion {version : Json} (marked : withVersion object version = .ok written)
    {name : String} (beside : name ≠ "metadata") : written.field? name = object.field? name := by
  obtain ⟨fields, metadata, rfl, has, rfl⟩ := withVersion_eq_ok_iff.1 marked
  exact Fields.get?_set_of_ne fields _ beside

/-- An object that states a place is kept there once it has a version. -/
theorem keptAt_of_stated {version : String} (stated : statedPlace kind object = .ok at_)
    (usable_ : usable at_ = .ok at_)
    (marked : withVersion object (.str version) = .ok written) : KeptAt at_ written := by
  obtain ⟨fields, metadata, rfl, has, rfl⟩ := withVersion_eq_ok_iff.1 marked
  obtain ⟨own, data, name, same, states, named, place⟩ := statedPlace_eq_ok_iff.1 stated
  cases same
  rw [has] at states
  cases states
  subst place
  exact {
    usable := usable_
    states := ⟨_, _, rfl, Fields.get?_set_self _ _ _, {
      name := ⟨name, by rw [Fields.get?_set_of_ne _ _ (by decide), named], rfl⟩
      namespaceName := by rw [Fields.get?_set_of_ne _ _ (by decide)]
      version := ⟨version, Fields.get?_set_self _ _ _⟩ }⟩ }

/-- What an update that goes through has found and done. -/
theorem update_eq_ok (updated : s.update kind object = (.ok written, after)) : ∃ at_ live,
    statedPlace kind object = .ok at_ ∧ s.failure? .update kind = none ∧
      s.get? at_ = some live ∧ Wrote s at_ written after ∧
      ∀ name, name ≠ "metadata" → written.field? name = object.field? name := by
  unfold update at updated
  split at updated
  · cases updated
  · next at_ stated =>
      obtain ⟨quiet, usable_, updated⟩ := answering_eq_ok_iff.1 updated
      have recorded := @get?_of_objects s
        (s.record .update kind at_.namespaceName at_.name) rfl at_
      rw [recorded] at updated
      split at updated
      · cases updated
      · next live found =>
          dsimp only at updated
          split at updated
          · cases updated
          · cases updated
          · split at updated
            · cases updated
            · next marked =>
                cases updated
                refine ⟨at_, live, stated, quiet, found, ?_, ?_⟩
                · exact wrote_put rfl rfl fun _ => keptAt_of_stated stated usable_ marked
                · intro name beside
                  exact field?_withVersion marked beside

/-- An object that was read and changed next to its metadata can be written back. -/
theorem update_of_current {live : Json} (stated : statedPlace kind object = .ok at_)
    (kept : KeptAt at_ live) (quiet : s.failure? .update kind = none)
    (found : s.get? at_ = some live)
    (current : object.field? "metadata" = live.field? "metadata") :
    ∃ written after, s.update kind object = (.ok written, after) := by
  obtain ⟨fields, metadata, name, rfl, has, named, -⟩ := statedPlace_eq_ok_iff.1 stated
  obtain ⟨own, data, rfl, states, names⟩ := kept.states
  have same : metadata = data := by
    simp only [Json.field?] at current
    rw [has, states] at current
    cases current
    rfl
  subst same
  obtain ⟨version, versioned⟩ := names.version
  have recorded := @get?_of_objects s (s.record .update kind at_.namespaceName at_.name) rfl at_
  have unchanged : (Json.str version).alike (.str version) = true := by simp [Json.alike]
  simp only [update, stated]
  rw [answering_of_ok quiet kept.usable, recorded, found]
  simp only [Json.entry, has, Json.fieldOr, versioned, versionOf, states, bind, Except.bind, pure,
    Except.pure, Option.getD_some, unchanged, takeVersion, withVersion]
  cases (Json.str version).holds <;> exact ⟨_, _, rfl⟩

/-- A stored object with another status stays where it is. -/
theorem keptAt_marked (found : s.get? at_ = some (.obj fields)) (status : Json)
    (inOrder : s.InOrder) : KeptAt at_ (.obj (Fields.set fields "status" status)) :=
  (inOrder at_ _ found).set status (by decide)

/-- What a status write that goes through has found and done. -/
theorem updateStatus_eq_ok (updated : s.updateStatus kind object = (.ok written, after)) :
    ∃ at_ fields status metadata version, statedPlace kind object = .ok at_ ∧
      s.get? at_ = some (.obj fields) ∧ object.fieldOr "status" .null = .ok status ∧
      Fields.get? fields "metadata" = some (.obj metadata) ∧
      written = .obj (Fields.set (Fields.set fields "status" status) "metadata"
        (.obj (Fields.set metadata "resourceVersion" (.str version)))) ∧
      Wrote s at_ written after := by
  unfold updateStatus at updated
  split at updated
  · cases updated
  · next at_ stated =>
      obtain ⟨quiet, usable_, updated⟩ := answering_eq_ok_iff.1 updated
      have recorded := @get?_of_objects s
        (s.record .updateStatus kind at_.namespaceName at_.name) rfl at_
      rw [recorded] at updated
      split at updated
      · cases updated
      · next live found =>
          split at updated
          · next status fields sent =>
              dsimp only at updated
              split at updated
              · cases updated
              · next marked =>
                  cases updated
                  obtain ⟨own, metadata, same, has, rfl⟩ := withVersion_eq_ok_iff.1 marked
                  cases same
                  rw [Fields.get?_set_of_ne _ _ (by decide)] at has
                  have first : Wrote s at_ (.obj (Fields.set fields "status" status))
                      ((s.record .updateStatus kind at_.namespaceName at_.name).put at_
                        (.obj (Fields.set fields "status" status))) :=
                    wrote_put rfl rfl (keptAt_marked found status)
                  refine ⟨at_, fields, status, metadata, _, stated, found, sent, has, rfl, ?_⟩
                  exact first.again rfl rfl fun inOrder =>
                    (keptAt_marked found status inOrder).withVersion marked
          · cases updated
          · cases updated

/-- The status of an object that is stored can be written. -/
theorem updateStatus_of_present {status : Json} (stated : statedPlace kind object = .ok at_)
    (kept : KeptAt at_ (.obj fields)) (quiet : s.failure? .updateStatus kind = none)
    (found : s.get? at_ = some (.obj fields)) (sent : object.fieldOr "status" .null = .ok status) :
    ∃ written after, s.updateStatus kind object = (.ok written, after) := by
  obtain ⟨metadata, has, -⟩ := kept.record_inj
  have still : Fields.get? (Fields.set fields "status" status) "metadata" = some (.obj metadata) := by
    rw [Fields.get?_set_of_ne _ _ (by decide), has]
  have recorded := @get?_of_objects s
    (s.record .updateStatus kind at_.namespaceName at_.name) rfl at_
  simp only [updateStatus, stated]
  rw [answering_of_ok quiet kept.usable, recorded, found]
  simp only [sent, takeVersion, withVersion, still]
  exact ⟨_, _, rfl⟩

/-! ## What a call can do -/

/-- What a call can make of a store: the failures stay as they are, and objects are written
where they state to be, or removed. -/
inductive Change (s : Store) : Store → Prop
  | refl : Change s s
  | noted {before next : Store} (earlier : Change s before)
      (objects : next.objects = before.objects) (failures : next.failures = before.failures) :
      Change s next
  | wrote {before : Store} (earlier : Change s before) (at_ : ObjectPlace) (object : Json)
      (kept : s.InOrder → KeptAt at_ object) : Change s (before.put at_ object)
  | removed {before : Store} (earlier : Change s before) (at_ : ObjectPlace) :
      Change s (before.remove at_)

namespace Change

theorem inOrder (change : Change s after) (inOrder : s.InOrder) : after.InOrder := by
  induction change with
  | refl => exact inOrder
  | noted earlier objects failures before => exact before.of_objects objects
  | wrote earlier at_ object kept before => exact before.put (kept inOrder)
  | removed earlier at_ before => exact before.remove at_

theorem failures (change : Change s after) : after.failures = s.failures := by
  induction change with
  | refl => rfl
  | noted earlier objects failures before => exact failures.trans before
  | wrote earlier at_ object kept before => exact before
  | removed earlier at_ before => exact before

theorem recorded (operation : Operation) (kind : ResourceKind) (namespaceName subject : Json) :
    Change s (s.record operation kind namespaceName subject) :=
  .noted .refl rfl rfl

theorem versioned {before : Store} (earlier : Change s before) : Change s before.takeVersion.2 :=
  earlier.noted rfl rfl

/-- Seeding a store that a change has led to goes on with the change. -/
theorem seed {before : Store} (earlier : Change s before) (kind : ResourceKind) (object : Json) :
    Change s (before.seed kind object).2 := by
  by_cases lookable : ∃ at_, statedPlace kind object = .ok at_ ∧ usable at_ = .ok at_
  · obtain ⟨at_, stated, usable_⟩ := lookable
    obtain ⟨written, seeded, kept, -⟩ := seed_of_stated (s := before) stated usable_
    have counted : Change s before.counted := earlier.noted rfl rfl
    rw [seeded]
    exact counted.wrote at_ written fun _ => kept
  · have unstated : ∀ at_, statedPlace kind object = .ok at_ → usable at_ ≠ .ok at_ := by
      intro at_ stated usable_
      exact lookable ⟨at_, stated, usable_⟩
    obtain ⟨fault, after, refused, objects, failures⟩ := seed_of_unstated (s := before) unstated
    rw [refused]
    exact earlier.noted objects failures

end Change

theorem create_change (kind : ResourceKind) (object : Json) :
    Change s (s.create kind object).2 := by
  unfold create
  split
  · exact .refl
  · refine answering_cases (P := fun result => Change s result.2) ?_ ?_
    · intro fault
      exact .recorded _ _ _ _
    · intro quiet usable_
      split
      · exact .recorded _ _ _ _
      · exact (Change.recorded _ _ _ _).seed kind object

theorem update_change (kind : ResourceKind) (object : Json) :
    Change s (s.update kind object).2 := by
  unfold update
  split
  · exact .refl
  · next at_ stated =>
      refine answering_cases (P := fun result => Change s result.2) ?_ ?_
      · intro fault
        exact .recorded _ _ _ _
      · intro quiet usable_
        have recorded := @Change.recorded s .update kind at_.namespaceName at_.name
        split
        · exact recorded
        · dsimp only
          split
          · exact recorded
          · exact recorded
          · have counted := recorded.versioned
            split
            · exact counted
            · next marked =>
                exact counted.wrote at_ _ fun _ => keptAt_of_stated stated usable_ marked

theorem updateStatus_change (kind : ResourceKind) (object : Json) :
    Change s (s.updateStatus kind object).2 := by
  unfold updateStatus
  split
  · exact .refl
  · next at_ stated =>
      refine answering_cases (P := fun result => Change s result.2) ?_ ?_
      · intro fault
        exact .recorded _ _ _ _
      · intro quiet usable_
        have recorded := @Change.recorded s .updateStatus kind at_.namespaceName at_.name
        split
        · exact recorded
        · next live found =>
            split
            · next status fields sent =>
                have kept : s.InOrder → KeptAt at_ (.obj (Fields.set fields "status" status)) :=
                  fun inOrder => keptAt_marked found status (recorded.inOrder inOrder)
                have marked := recorded.wrote at_ _ kept
                have counted := marked.versioned
                dsimp only
                split
                · exact counted
                · next versioned =>
                    exact counted.wrote at_ _ fun inOrder => (kept inOrder).withVersion versioned
            · exact recorded
            · exact recorded

theorem delete_change (kind : ResourceKind) (namespaceName name : Json) :
    Change s (s.delete kind namespaceName name).2 := by
  unfold delete
  refine answering_cases (P := fun result => Change s result.2) ?_ ?_
  · intro fault
    exact .recorded _ _ _ _
  · intro quiet usable_
    split
    · exact (Change.recorded _ _ _ _).removed _
    · exact .recorded _ _ _ _

/-- Whatever a call is answered, this is what it can do. -/
theorem answer_change (s : Store) (call : ClientCall) : Change s (s.answer call).2 := by
  cases call with
  | get kind namespaceName name =>
      change Change s (s.get kind namespaceName name).2
      rw [get_snd]
      exact .recorded _ _ _ _
  | create kind object => exact create_change kind object
  | update kind object => exact update_change kind object
  | updateStatus kind object => exact updateStatus_change kind object
  | delete kind namespaceName name => exact delete_change kind namespaceName name

/-- The stores that can be come by: an empty one, and one after whatever is done to a
store.  An object that is changed where it lies goes on stating its place. -/
inductive Reached : Store → Prop
  | empty : Reached .empty
  | seeded {s : Store} (before : Reached s) (kind : ResourceKind) (object : Json) :
      Reached (s.seed kind object).2
  | answered {s : Store} (before : Reached s) (call : ClientCall) : Reached (s.answer call).2
  | listed {s : Store} (before : Reached s) (kind : ResourceKind) (scope : Option String) :
      Reached (s.list kind scope).2
  | watched {s : Store} (before : Reached s) (kind : ResourceKind) (scope : Option String)
      (position : Json) : Reached (s.watch kind scope position).2
  | failing {s : Store} (before : Reached s) (operation : Operation) (kind : ResourceKind)
      (fault : Fault) : Reached (s.fail operation kind fault)
  | cleared {s : Store} (before : Reached s) : Reached s.clearFailures
  | dropped {s : Store} (before : Reached s) (at_ : ObjectPlace) : Reached (s.remove at_)
  | edited {s : Store} (before : Reached s) (at_ : ObjectPlace) (path : List Json)
      (value : Option Json)
      (stays : ∀ object changed, s.get? at_ = some object → editAt value path object = .ok changed →
        KeptAt at_ changed) : Reached (s.edit at_ path value).2

/-- Every store that can be come by is in order. -/
theorem Reached.inOrder (reached : Reached s) : s.InOrder := by
  induction reached with
  | empty =>
      intro at_ object found
      cases found
  | seeded before kind object inOrder => exact (Change.refl.seed kind object).inOrder inOrder
  | answered before call inOrder => exact (answer_change _ call).inOrder inOrder
  | listed before kind scope inOrder =>
      refine inOrder.of_objects ?_
      simp only [list]
      split <;> rfl
  | watched before kind scope position inOrder =>
      refine inOrder.of_objects ?_
      simp only [watch]
      split <;> rfl
  | failing before operation kind fault inOrder => exact inOrder.of_objects rfl
  | cleared before inOrder => exact inOrder.of_objects rfl
  | dropped before at_ inOrder => exact inOrder.remove at_
  | edited before at_ path value stays inOrder =>
      unfold edit
      split
      · exact inOrder
      · next object found =>
          split
          · exact inOrder
          · next changed written => exact inOrder.put (stays object changed found written)

end Store

end AppOperator
