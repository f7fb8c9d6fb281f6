import Mathlib.Data.List.Find
import AppOperator.Proofs.Json.Editing

/-!
# Reading declarations

A record is read as a declaration exactly when each of its parts is
(`Declaration.Reads`).  What a status write leaves behind reads as the same
declaration with the ready count that was written.
-/

set_option autoImplicit false

namespace AppOperator

namespace Checked

theorem both_eq_ok_iff {α β : Type} {a : Checked α} {b : Checked β} {pair : α × β} :
    both a b = .ok pair ↔ a = .ok pair.1 ∧ b = .ok pair.2 := by
  obtain ⟨first, second⟩ := pair
  cases a <;> cases b <;> simp [both]

theorem orFault_eq_ok_iff {α : Type} {model : String} {a : Checked α} {value : α} :
    a.orFault model = .ok value ↔ a = .ok value := by
  cases a <;> simp [orFault, Except.mapError]

theorem text_eq_ok_iff {path : List String} {x : Json} {s : String} :
    text path x = .ok s ↔ x = .str s := by
  cases x <;> simp [text, fail]

theorem fieldsOf_eq_ok_iff {path : List String} {x : Json} {fields : Fields} :
    fieldsOf path x = .ok fields ↔ x = .obj fields := by
  cases x <;> simp [fieldsOf, fail]

theorem model_eq_ok_iff {α : Type} {name : String} {x : Json} {check : Fields → Checked α}
    {value : α} : model name x check = .ok value ↔ ∃ fields, x = .obj fields ∧
      check fields = .ok value := by
  cases x <;> simp [model, fail]

variable {fields : Fields} {name : String} {value : Json}

/-- A field that is not written to is checked as before. -/
theorem field_set {α : Type} (names : List String) (check : List String → Json → Checked α)
    (default : Option α) (others : ∀ other ∈ names, other ≠ name) :
    field (Fields.set fields name value) names check default = field fields names check default := by
  have same : ∀ other ∈ names,
      Fields.get? (Fields.set fields name value) other = Fields.get? fields other := by
    intro other among
    exact Fields.get?_set_of_ne fields value (others other among)
  have found : (names.find? fun other => (Fields.get? (Fields.set fields name value) other).isSome) =
      names.find? fun other => (Fields.get? fields other).isSome := by
    refine List.find?_congr ?_
    intro other among
    rw [same other among]
  simp only [field, found]
  split
  · next other isFirst => rw [same other (List.mem_of_find?_eq_some isFirst)]
  · rfl

end Checked

namespace Status

/-- What a record of the status reads as. -/
theorem ofJson_eq_ok_iff {x : Json} {status : Status} : ofJson x = .ok status ↔
    ∃ fields, x = .obj fields ∧
      Checked.field fields ["readyReplicas", "ready_replicas"] Checked.whole (some 0) =
        .ok status.readyReplicas ∧
      Checked.field fields ["serviceStatus", "service_status"] Checked.optionalText (some none) =
        .ok status.serviceStatus := by
  unfold ofJson check
  rw [Checked.orFault_eq_ok_iff, Checked.model_eq_ok_iff]
  refine exists_congr ?_
  intro fields
  refine and_congr_right ?_
  rintro rfl
  rw [bind_eq_ok_iff]
  constructor
  · rintro ⟨⟨ready, service⟩, checked, same⟩
    obtain ⟨first, second⟩ := Checked.both_eq_ok_iff.1 checked
    cases same
    exact ⟨first, second⟩
  · rintro ⟨first, second⟩
    exact ⟨(status.readyReplicas, status.serviceStatus), Checked.both_eq_ok_iff.2 ⟨first, second⟩,
      rfl⟩

/-- A status with another ready count reads as that count and the service status as before. -/
theorem ofJson_set_readyReplicas {fields : Fields} {status : Status}
    (reads : ofJson (.obj fields) = .ok status) (count : Int) :
    ofJson (.obj (Fields.set fields "readyReplicas" (.int count))) =
      .ok ⟨count, status.serviceStatus⟩ := by
  obtain ⟨own, same, -, service⟩ := ofJson_eq_ok_iff.1 reads
  cases same
  refine ofJson_eq_ok_iff.2 ⟨_, rfl, ?_, ?_⟩
  · simp [Checked.field, Fields.get?_set_self, Checked.whole]
  · rw [Checked.field_set _ _ _ (by decide)]
    exact service

end Status

namespace Declaration

/-- What the parts of a record read as. -/
structure Reads (fields metadata : Fields) (d : Declaration) : Prop where
  name : Fields.get? metadata "name" = some (.str d.name)
  namespaceName : ((Fields.get? metadata "namespace").getD .null).orElse (.str defaultNamespace) =
    .str d.namespaceName
  uid : (Fields.get? metadata "uid").getD (.str "") = .str d.uid
  resourceVersion : Checked.optionalText ["resource_version"]
    ((Fields.get? metadata "resourceVersion").getD .null) = .ok d.resourceVersion
  spec : Spec.ofJson (((Fields.get? fields "spec").getD .null).orElse (.obj [])) = .ok d.spec
  status : Status.ofJson (((Fields.get? fields "status").getD .null).orElse (.obj [])) = .ok d.status
  raw : d.raw = fields

variable {fields metadata : Fields} {d : Declaration}

/-- A record with metadata reads as a declaration exactly when its parts do. -/
theorem ofResource_eq_ok_iff (has : Fields.get? fields "metadata" = some (.obj metadata)) :
    ofResource (.obj fields) = .ok d ↔ Reads fields metadata d := by
  simp only [ofResource, Json.fieldOr_obj, has, Option.getD_some, bind_eq_ok_iff,
    Checked.orFault_eq_ok_iff, Checked.both_eq_ok_iff, Checked.text_eq_ok_iff,
    Checked.fieldsOf_eq_ok_iff, Json.entry_obj_eq_ok_iff, Except.ok.injEq, Json.obj.injEq, pure,
    Except.pure, exists_eq_left', Prod.exists]
  constructor
  · rintro ⟨_, named, spec, specReads, status, statusReads, name, namespaceName, uid, version, raw,
      ⟨rfl, inNamespace, identity, versioned, rfl⟩, rfl⟩
    exact {
      name := named
      namespaceName := inNamespace
      uid := identity
      resourceVersion := versioned
      spec := specReads
      status := statusReads
      raw := rfl }
  · intro reads
    exact ⟨_, reads.name, d.spec, reads.spec, d.status, reads.status, d.name, d.namespaceName,
      d.uid, d.resourceVersion, d.raw, ⟨rfl, reads.namespaceName, reads.uid, reads.resourceVersion,
      reads.raw.symm⟩, rfl⟩

/-- The record of the status, empty if there is none. -/
theorem Reads.statusFields (reads : Reads fields metadata d) : ∃ own,
    ((Fields.get? fields "status").getD .null).orElse (.obj []) = .obj own ∧
      Status.ofJson (.obj own) = .ok d.status := by
  obtain ⟨own, same, -⟩ := Status.ofJson_eq_ok_iff.1 reads.status
  have status := reads.status
  rw [same] at status
  exact ⟨own, same, status⟩

/-- The object of a status write: the record that was read, with the ready count written
into its status. -/
theorem Reads.withReadyReplicas_of_own (reads : Reads fields metadata d)
    (has : Fields.get? fields "metadata" = some (.obj metadata)) {own : Fields}
    (same : ((Fields.get? fields "status").getD .null).orElse (.obj []) = .obj own) (ready : Json) :
    d.withReadyReplicas ready = .ok (.obj (Fields.set fields "status"
      (.obj (Fields.set own "readyReplicas" ready)))) := by
  have notEmpty : fields.isEmpty = false := by
    cases fields with
    | nil => cases has
    | cons field rest => rfl
  have copied : copiedFields ((Fields.get? fields "status").getD .null) = .ok own := by
    unfold Json.orElse at same
    unfold copiedFields
    split at same
    · next holds => rw [same] at holds ⊢; simp only [holds]; rfl
    · next holds =>
        cases same
        simp only [holds]
        rfl
  simp only [withReadyReplicas, notEmpty, reads.raw, Bool.false_eq_true, if_false, copied, bind,
    Except.bind, pure, Except.pure]

theorem withReadyReplicas_eq (reads : Reads fields metadata d)
    (has : Fields.get? fields "metadata" = some (.obj metadata)) (ready : Json) :
    ∃ own, Status.ofJson (.obj own) = .ok d.status ∧
      d.withReadyReplicas ready = .ok (.obj (Fields.set fields "status"
        (.obj (Fields.set own "readyReplicas" ready)))) := by
  obtain ⟨own, same, status⟩ := reads.statusFields
  exact ⟨own, status, reads.withReadyReplicas_of_own has same ready⟩

/-- What a status write leaves behind reads as the declaration with another ready count. -/
theorem Reads.marked {own : Fields} (reads : Reads fields metadata d)
    (status : Status.ofJson (.obj own) = .ok d.status) (count : Int) (version : String) :
    Reads (Fields.set (Fields.set fields "status"
          (.obj (Fields.set own "readyReplicas" (.int count)))) "metadata"
        (.obj (Fields.set metadata "resourceVersion" (.str version))))
      (Fields.set metadata "resourceVersion" (.str version))
      { d with
        resourceVersion := some version
        status := ⟨count, d.status.serviceStatus⟩
        raw := Fields.set (Fields.set fields "status"
            (.obj (Fields.set own "readyReplicas" (.int count)))) "metadata"
          (.obj (Fields.set metadata "resourceVersion" (.str version))) } where
  name := by
    rw [Fields.get?_set_of_ne _ _ (by decide)]
    exact reads.name
  namespaceName := by
    rw [Fields.get?_set_of_ne _ _ (by decide)]
    exact reads.namespaceName
  uid := by
    rw [Fields.get?_set_of_ne _ _ (by decide)]
    exact reads.uid
  resourceVersion := by
    rw [Fields.get?_set_self]
    rfl
  spec := by
    rw [Fields.get?_set_of_ne _ _ (by decide), Fields.get?_set_of_ne _ _ (by decide)]
    exact reads.spec
  status := by
    rw [Fields.get?_set_of_ne _ _ (by decide), Fields.get?_set_self, Option.getD_some,
      Json.orElse_set]
    exact Status.ofJson_set_readyReplicas status count
  raw := rfl

end Declaration

end AppOperator
