import AppOperator.Proofs.Declaration.Agreement
import AppOperator.Proofs.Schema.Names

/-!
# Rendered declarations

What is read from an object keeps the bounds of its schema, whatever form the object was
written in, and the normal form of it reads as the same (`Declaration.reads_manifest`).  So
does what a new declaration is rendered as.  The schema accepts the normal form of every
declaration with a name that its rules accept.
-/

set_option autoImplicit false

namespace AppOperator

/-! ## Bounds -/

/-- The bounds that the schema sets for specifications. -/
structure Spec.InBounds (spec : Spec) : Prop where
  image : spec.image ≠ ""
  replicas : 1 ≤ spec.replicas
  port : 1 ≤ spec.containerPort ∧ spec.containerPort ≤ 65535

/-- A field is read from a value that stands somewhere, or it is the default. -/
theorem Checked.exists_of_field {α : Type} {fields : Fields} {names : List String}
    {check : List String → Json → Checked α} {default : Option α} {a : α}
    (checked : Checked.field fields names check default = .ok a) :
    (∃ path x, check path x = .ok a) ∨ default = some a := by
  unfold Checked.field at checked
  split at checked
  · exact .inl ⟨_, _, checked⟩
  · cases default with
    | none => cases checked
    | some value =>
        cases checked
        exact .inr rfl

namespace Spec

/-- Whatever a specification is read from, it is in bounds. -/
theorem inBounds_of_ofJson {x : Json} {spec : Spec} (reads : ofJson x = .ok spec) :
    spec.InBounds := by
  obtain ⟨fields, rfl⟩ : ∃ fields, x = .obj fields := by
    rw [ofJson, Checked.orFault_eq_ok_iff, check, Checked.model_eq_ok_iff] at reads
    obtain ⟨fields, rfl, -⟩ := reads
    exact ⟨fields, rfl⟩
  obtain ⟨image, replicas, containerPort, -⟩ := ofJson_eq_ok_iff.mp reads
  refine ⟨?_, ?_, ?_⟩
  · obtain ⟨path, x, isText⟩ | absent := Checked.exists_of_field image
    · exact (Checked.nonEmptyText_eq_ok_iff.mp isText).2
    · cases absent
  · obtain ⟨path, x, isCount⟩ | isDefault := Checked.exists_of_field replicas
    · exact (Checked.positive_eq_ok_iff.mp isCount).2
    · rw [← Option.some.inj isDefault]
  · obtain ⟨path, x, isPort⟩ | absent := Checked.exists_of_field containerPort
    · exact (Checked.port_eq_ok_iff.mp isPort).2
    · cases absent

theorem ofJson_toJson {spec : Spec} (bounds : spec.InBounds) : ofJson spec.toJson = .ok spec := by
  refine ofJson_eq_ok_iff.mpr ⟨?_, ?_, ?_, ?_⟩
  · rw [Checked.field_of_present rfl]
    exact Checked.nonEmptyText_eq_ok_iff.mpr ⟨rfl, bounds.image⟩
  · rw [Checked.field_of_present rfl]
    exact Checked.positive_eq_ok_iff.mpr ⟨rfl, bounds.replicas⟩
  · rw [Checked.field_of_present rfl]
    exact Checked.port_eq_ok_iff.mpr ⟨rfl, bounds.port⟩
  · rw [Checked.field_of_present rfl]
    rfl

end Spec

theorem Status.ofJson_toJson (status : Status) : ofJson status.toJson = .ok status := by
  obtain ⟨readyReplicas, serviceStatus⟩ := status
  cases serviceStatus <;> rfl

/-! ## The normal form -/

namespace Fields

theorem get?_append (first second : Fields) (name : String) :
    get? (first ++ second) name = (get? first name).or (get? second name) := by
  simp only [get?, List.find?_append]
  cases first.find? fun field => field.1 == name <;> rfl

end Fields

namespace Declaration

variable {d : Declaration} {object : Json}

/-- An object that is read as a declaration is a record with metadata. -/
theorem exists_reads (parses : ofResource object = .ok d) : ∃ fields metadata,
    object = .obj fields ∧ Fields.get? fields "metadata" = some (.obj metadata) ∧
      Reads fields metadata d := by
  have opened := parses
  simp only [ofResource, bind_eq_ok_iff, Json.fieldOr_eq_ok_iff, Json.entry_eq_ok_iff] at opened
  obtain ⟨_, ⟨fields, rfl, rfl⟩, name, ⟨metadata, isMetadata, named⟩, -⟩ := opened
  have has : Fields.get? fields "metadata" = some (.obj metadata) := by
    cases found : Fields.get? fields "metadata" with
    | some value =>
        rw [found, Option.getD_some] at isMetadata
        rw [isMetadata]
    | none =>
        -- the empty record that stands in for absent metadata has no name
        rw [found, Option.getD_none] at isMetadata
        cases isMetadata
        cases named
  exact ⟨fields, metadata, rfl, has, (ofResource_eq_ok_iff has).mp parses⟩

theorem Reads.namespace_ne {fields metadata : Fields} (reads : Reads fields metadata d) :
    d.namespaceName ≠ "" := by
  intro empty
  have stated := reads.namespaceName
  rw [empty, Json.orElse] at stated
  split at stated
  · next holds =>
      rw [stated] at holds
      cases holds
  · exact absurd stated (by decide)

theorem get?_writtenText (name text other : String) : Fields.get? (writtenText name text) other =
    if name = other ∧ text ≠ "" then some (.str text) else none := by
  by_cases empty : text = ""
  · simp [writtenText, empty]
  · simp [writtenText, empty, Fields.get?_cons]

def writtenMetadata (d : Declaration) : Fields :=
  [("name", .str d.name), ("namespace", .str d.namespaceName)]
    ++ writtenText "uid" d.uid ++ writtenText "resourceVersion" (d.resourceVersion.getD "")

theorem get?_writtenMetadata (d : Declaration) (name : String) :
    Fields.get? d.writtenMetadata name =
      if name = "name" then some (.str d.name)
      else if name = "namespace" then some (.str d.namespaceName)
      else (Fields.get? (writtenText "uid" d.uid) name).or
        (Fields.get? (writtenText "resourceVersion" (d.resourceVersion.getD "")) name) := by
  rw [writtenMetadata, List.append_assoc, List.cons_append, List.cons_append, List.nil_append,
    Fields.get?_cons, Fields.get?_cons, Fields.get?_append]
  simp only [beq_iff_eq, eq_comm (b := name)]

def writtenFields (d : Declaration) : Fields :=
  [("apiVersion", .str apiVersion), ("kind", .str declarationKind),
    ("metadata", .obj d.writtenMetadata), ("spec", d.spec.toJson), ("status", d.status.toJson)]

theorem toManifest_eq (d : Declaration) : d.toManifest = .obj d.writtenFields := rfl

/-- What the normal form of a declaration reads as: an empty version is none, and what has been
served is the normal form. -/
def normalized (d : Declaration) : Declaration :=
  { d with resourceVersion := d.resourceVersion.filter (· != ""), raw := d.writtenFields }

theorem getD_normalized_version (d : Declaration) :
    d.normalized.resourceVersion.getD "" = d.resourceVersion.getD "" := by
  cases version : d.resourceVersion with
  | none => simp [normalized, version]
  | some text => by_cases empty : text = "" <;> simp [normalized, version, Option.filter, empty]

theorem toManifest_normalized (d : Declaration) : d.normalized.toManifest = d.toManifest := by
  rw [toManifest, getD_normalized_version]
  rfl

/-- The normal form of a declaration in bounds reads as that declaration. -/
theorem reads_manifest (named : d.namespaceName ≠ "") (bounds : d.spec.InBounds) :
    ofResource d.toManifest = .ok d.normalized := by
  rw [toManifest_eq]
  refine (ofResource_eq_ok_iff rfl).mpr ?_
  refine ⟨?name, ?namespaceName, ?uid, ?resourceVersion, Spec.ofJson_toJson bounds,
    Status.ofJson_toJson d.status, rfl⟩
  case name =>
    rw [get?_writtenMetadata]
    rfl
  case namespaceName =>
    simp [get?_writtenMetadata, Json.orElse, Json.holds, named, normalized]
  case uid =>
    by_cases empty : d.uid = "" <;>
      simp [get?_writtenMetadata, get?_writtenText, empty, normalized]
  case resourceVersion =>
    cases version : d.resourceVersion with
    | none => simp [get?_writtenMetadata, get?_writtenText, version, normalized,
        Checked.optionalText]
    | some text =>
        by_cases empty : text = "" <;>
          simp [get?_writtenMetadata, get?_writtenText, version, empty, normalized,
            Checked.optionalText, Checked.text, Except.map, Option.filter]

end Declaration

/-! ## New declarations -/

def NewDeclaration.ofSpec (name namespaceName : String) (spec : Spec) : NewDeclaration where
  name := .str name
  image := .str spec.image
  containerPort := .int spec.containerPort
  replicas := .int spec.replicas
  servicePort := .int spec.servicePort
  namespaceName := .str namespaceName

/-- A new declaration reads as one of which nothing is known and nothing has been observed. -/
theorem NewDeclaration.reads_render (name : String) {namespaceName : String} {spec : Spec}
    (named : namespaceName ≠ "") (bounds : spec.InBounds) :
    ∃ raw, Declaration.ofResource (NewDeclaration.ofSpec name namespaceName spec).render =
      .ok ⟨name, namespaceName, "", none, spec, Status.initial, raw⟩ := by
  obtain ⟨raw, isRecord⟩ : ∃ raw, (NewDeclaration.ofSpec name namespaceName spec).render =
      .obj raw := ⟨_, rfl⟩
  refine ⟨raw, ?_⟩
  cases isRecord
  exact (Declaration.ofResource_eq_ok_iff rfl).mpr {
    name := rfl
    namespaceName := by simp [Fields.get?_cons, Json.orElse, Json.holds, named, ofSpec]
    uid := rfl
    resourceVersion := rfl
    spec := Spec.ofJson_toJson bounds
    status := rfl
    raw := rfl }

/-! ## The schema -/

theorem Spec.accepted_of_inBounds {spec : Spec} (bounds : spec.InBounds) (path : List String) :
    schemaViolations path spec.toJson Schema.spec = [] := by
  refine schemaViolations_path _ _ [] path (Schema.message?_eq_none_iff.mp ?_)
  refine Spec.message?_eq_none_iff.mpr ?_
  exact {
    image := ⟨_, rfl, _, rfl, bounds.image⟩
    replicas := by
      rintro x ⟨⟩
      exact ⟨_, .inl rfl, bounds.replicas⟩
    containerPort := ⟨_, rfl, _, .inl rfl, bounds.port⟩
    servicePort := by
      rintro x ⟨⟩
      exact ⟨_, .inl rfl⟩ }

theorem Status.accepted (status : Status) (path : List String) :
    schemaViolations path status.toJson Schema.status = [] := by
  obtain ⟨readyReplicas, serviceStatus⟩ := status
  cases serviceStatus <;> rfl

namespace Declaration

theorem unnamed_manifest {d : Declaration} (bounds : d.spec.InBounds) :
    Schema.unnamed.message? d.toManifest = none := by
  have record : Checkable.aspect d.toManifest = .record (Fields.get? d.writtenFields) := rfl
  have inNamespace : Fields.get? d.writtenMetadata "namespace" = some (.str d.namespaceName) := by
    rw [get?_writtenMetadata]
    rfl
  simp only [Schema.message?_eq_none_iff, Schema.unnamed, schemaViolations_cons_eq_nil_iff,
    schemaViolations_nil, required_eq_nil_iff, type_eq_nil_iff, properties_cons_eq_nil_iff,
    and_true, record, Aspect.field?]
  refine ⟨rfl, ?required, ?version, ?kind, ?metadata, ?spec, ?status, rfl⟩
  case required =>
    intro name among
    simp only [List.mem_cons, List.not_mem_nil, or_false] at among
    obtain rfl | rfl | rfl | rfl := among <;> rfl
  case version =>
    rintro value ⟨⟩
    exact ⟨rfl, rfl⟩
  case kind =>
    rintro value ⟨⟩
    exact ⟨rfl, rfl⟩
  case metadata =>
    rintro value ⟨⟩
    simp only [Schema.unnamedMetadata, schemaViolations_cons_eq_nil_iff, schemaViolations_nil,
      type_eq_nil_iff, properties_cons_eq_nil_iff, and_true]
    refine ⟨rfl, ?_, rfl⟩
    intro value found
    have isValue : Fields.get? d.writtenMetadata "namespace" = some value := found
    rw [inNamespace] at isValue
    cases isValue
    rfl
  case spec =>
    rintro value ⟨⟩
    exact Spec.accepted_of_inBounds bounds _
  case status =>
    rintro value ⟨⟩
    exact Status.accepted d.status _

theorem nameOf?_manifest (d : Declaration) : nameOf? d.toManifest = some (.str d.name) := by
  have named : Fields.get? d.writtenMetadata "name" = some (.str d.name) := by
    rw [get?_writtenMetadata]
    rfl
  exact named

/-- The schema accepts the normal form of a declaration in bounds exactly for its name. -/
theorem manifest_is_accepted_iff {d : Declaration} (bounds : d.spec.InBounds) :
    Schema.declaration.message? d.toManifest = none ↔ Schema.AcceptsName d.name := by
  rw [Schema.declaration_eq_none_iff, nameOf?_manifest]
  constructor
  · rintro ⟨-, _, s, ⟨⟩, isText, accepts⟩
    cases isText
    exact accepts
  · intro accepts
    exact ⟨unnamed_manifest bounds, _, _, rfl, rfl, accepts⟩

/-- Rendering and reading undo each other.  What is read from an object reads the same from its
normal form, but for a version that is empty and then is none; the normal form of that is the same
again, and the schema accepts it exactly if its rules accept the name.  What a new declaration in a
namespace is rendered as, with a specification in bounds, reads as just these fields. -/
theorem rendering_reads_back :
    (∀ object d, ofResource object = .ok d → ∃ again, ofResource d.toManifest = .ok again ∧
      again.name = d.name ∧ again.namespaceName = d.namespaceName ∧ again.uid = d.uid ∧
      again.spec = d.spec ∧ again.status = d.status ∧ again.key = d.key ∧
      again.resourceVersion = d.resourceVersion.filter (· != "") ∧
      again.toManifest = d.toManifest ∧
      (Schema.declaration.message? d.toManifest = none ↔ Schema.AcceptsName d.name)) ∧
    ∀ (name namespaceName : String) (spec : Spec), namespaceName ≠ "" → spec.InBounds →
      ∃ d, ofResource (NewDeclaration.ofSpec name namespaceName spec).render = .ok d ∧
        d.name = name ∧ d.namespaceName = namespaceName ∧ d.uid = "" ∧ d.resourceVersion = none ∧
        d.spec = spec ∧ d.status = Status.initial := by
  constructor
  · intro object d parses
    obtain ⟨fields, metadata, -, -, reads⟩ := exists_reads parses
    have bounds := Spec.inBounds_of_ofJson reads.spec
    exact ⟨d.normalized, reads_manifest reads.namespace_ne bounds, rfl, rfl, rfl, rfl, rfl, rfl, rfl,
      d.toManifest_normalized, manifest_is_accepted_iff bounds⟩
  · intro name namespaceName spec named bounds
    obtain ⟨raw, reads⟩ := NewDeclaration.reads_render name named bounds
    exact ⟨_, reads, rfl, rfl, rfl, rfl, rfl, rfl⟩

/-- A declaration whose numbers are written in all the ways that are read. -/
def laxFields : Fields :=
  [("metadata", .obj [("name", .str "web"), ("namespace", .null), ("resourceVersion", .str "")]),
    ("spec", .obj [("image", .str "nginx"), ("replicas", .str " +2.0 "),
      ("container_port", .float ⟨0x40BF900000000000⟩), ("servicePort", .bool true)]),
    ("status", .obj [("ready_replicas", .str "1_0"), ("seen", .null)])]

theorem rendering_reads_back_of_lax_fields :
    ∃ d again fresh, ofResource (.obj laxFields) = .ok d ∧ d.resourceVersion = some "" ∧
      d.spec = ⟨"nginx", 2, 8080, 1⟩ ∧ d.status = ⟨10, none⟩ ∧
      ofResource d.toManifest = .ok again ∧ again.key = d.key ∧ again.spec = d.spec ∧
      again.status = d.status ∧ again.resourceVersion = none ∧ again.toManifest = d.toManifest ∧
      Schema.declaration.message? d.toManifest = none ∧
      "prod" ≠ "" ∧ d.spec.InBounds ∧
      ofResource (NewDeclaration.ofSpec "web" "prod" d.spec).render = .ok fresh ∧
      fresh.spec = d.spec ∧ fresh.status = Status.initial := by
  obtain ⟨back, fresh⟩ := rendering_reads_back
  have parses : ofResource (.obj laxFields) = .ok ⟨"web", "default", "", some "",
      ⟨"nginx", 2, 8080, 1⟩, ⟨10, none⟩, laxFields⟩ := rfl
  have bounds : (⟨"nginx", 2, 8080, 1⟩ : Spec).InBounds :=
    ⟨by decide, by decide, by decide, by decide⟩
  obtain ⟨again, reads, -, -, -, spec, status, key, version, manifest, accepted⟩ :=
    back _ _ parses
  obtain ⟨fresh, rendered, -, -, -, -, freshSpec, freshStatus⟩ :=
    fresh "web" "prod" _ (by decide) bounds
  exact ⟨_, again, fresh, parses, rfl, rfl, rfl, reads, key, spec, status, version, manifest,
    accepted.mpr ⟨by decide +kernel, by decide⟩, by decide, bounds, rendered, freshSpec, freshStatus⟩

end Declaration

end AppOperator
