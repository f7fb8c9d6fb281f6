import AppOperator.Proofs.Cluster.Calls
import AppOperator.Reconcile.Step

/-!
# What ensure steps own

Each step is responsible for a few fields of a live object; `isAligned` says of
an object that they are as wanted.  A step sees no difference exactly in aligned
objects, the object it wants is aligned, and so is every object it has edited
(`EnsureStep.Lawful`).  An edit changes nothing next to the section it is about.
-/

set_option autoImplicit false

namespace AppOperator

namespace Json

variable {x y value item : Json} {name : String}

/-- A field that reads as something other than the default is there. -/
theorem field?_of_fieldOr {default : Json} (read : x.fieldOr name default = .ok value)
    (differs : value ≠ default) : x.field? name = some value := by
  obtain ⟨fields, rfl, rfl⟩ := fieldOr_eq_ok_iff.1 read
  cases found : Fields.get? fields name with
  | none => rw [found] at differs; exact absurd rfl differs
  | some old => simp [field?, found]

theorem ne_empty_of_field? (has : x.field? name = some value) : x ≠ .obj [] := by
  rintro rfl
  cases has

theorem fieldOr_of_field? (has : x.field? name = some value) (default : Json) :
    x.fieldOr name default = .ok value := by
  cases x with
  | obj fields =>
      simp only [field?] at has
      simp [fieldOr, has]
  | _ => cases has

theorem field?_of_isNumber {n : Int} (read : x.fieldOr name .null = .ok value)
    (isNumber : value.isNumber n = true) : x.field? name = some value := by
  refine field?_of_fieldOr read ?_
  rintro rfl
  cases isNumber

theorem field?_of_isText {s : String} (read : x.fieldOr name .null = .ok value)
    (isText : value.isText s = true) : x.field? name = some value := by
  refine field?_of_fieldOr read ?_
  rintro rfl
  cases isText

/-- The first part of a list that stands in for nothing has no fields. -/
theorem firstItem?_of_first (isFirst : (x.orElse (.arr [.obj []])).first = .ok item)
    (has : item.field? name = some value) : x.firstItem? = some item := by
  unfold orElse at isFirst
  split at isFirst
  · cases x with
    | arr items =>
        cases items with
        | nil => cases isFirst
        | cons head rest => cases isFirst; rfl
    | str s =>
        simp only [first] at isFirst
        split at isFirst
        · cases isFirst
          cases has
        · cases isFirst
    | _ => cases isFirst
  · cases isFirst
    cases has

theorem first_of_firstItem? (isFirst : x.firstItem? = some item) (default : Json) :
    (x.orElse default).first = .ok item := by
  cases x with
  | arr items =>
      cases items with
      | nil => cases isFirst
      | cons head rest => cases isFirst; rfl
  | _ => cases isFirst

end Json

theorem Edited.andThen_eq_ok_iff {e : Edited} {write : Json → Except Fault Json} {y : Json} :
    e.andThen write = ⟨y, none⟩ ↔ ∃ x, e = ⟨x, none⟩ ∧ write x = .ok y := by
  obtain ⟨live, fault⟩ := e
  cases fault with
  | some fault => simp [andThen]
  | none => cases written : write live <;> simp [andThen, written]

/-- A write of one field of the section, which may have to be made for it. -/
def Edited.sectionField (name : String) (value live : Json) : Edited :=
  (Edited.start live).andThen fun live => live.changeEntryOrNew "spec" (·.assign name value)

/-- A write that goes through changes nothing next to the section. -/
theorem Edited.of_sectionField {name : String} {value live edited : Json}
    (edit : sectionField name value live = ⟨edited, none⟩) :
    edited.dig? ["spec", name] = some value ∧
      ∀ other, other ≠ "spec" → edited.field? other = live.field? other := by
  obtain ⟨start, same, changed⟩ := andThen_eq_ok_iff.1 edit
  cases same
  obtain ⟨fields, newSpec, rfl, ofSpec, rfl⟩ := Json.changeEntryOrNew_eq_ok_iff.1 changed
  obtain ⟨own, -, rfl⟩ := Json.assign_eq_ok_iff.1 ofSpec
  constructor
  · simp only [Json.dig?, Json.field?, Fields.get?_set_self, Option.bind_some]
  · intro other beside
    exact Fields.get?_set_of_ne fields _ beside

theorem Edited.exists_sectionField {fields own : Fields}
    (inLive : (Fields.get? fields "spec").getD (.obj []) = .obj own) (name : String)
    (value : Json) : ∃ edited, sectionField name value (.obj fields) = ⟨edited, none⟩ := by
  have written : (Json.obj fields).changeEntryOrNew "spec" (·.assign name value) =
      .ok (.obj (Fields.set fields "spec" (.obj (Fields.set own name value)))) :=
    Json.changeEntryOrNew_eq_ok_iff.2 ⟨fields, _, rfl, by rw [inLive]; rfl, rfl⟩
  exact ⟨_, andThen_eq_ok_iff.2 ⟨_, rfl, written⟩⟩

theorem changedIf_eq_nil_iff (wrong : Bool) (name : String) :
    changedIf wrong name = [] ↔ wrong = false := by
  cases wrong <;> simp [changedIf]

/-! ## Workloads -/

namespace WorkloadStep

open Json

variable {replicas : Int} {image : String} {live edited : Json}

/-- The first container of a workload, if there is one. -/
def container? (live : Json) : Option Json :=
  (live.dig? ["spec", "template", "spec", "containers"]).bind Json.firstItem?

/-- Replicas and image are as wanted. -/
def isAligned (replicas : Int) (image : String) (live : Json) : Bool :=
  (live.dig? ["spec", "replicas"]).any (·.isNumber replicas) &&
    ((container? live).bind (·.field? "image")).any (·.isText image)

/-- A container with a field is one that is there. -/
theorem container?_of_container {item value : Json} {name : String}
    (read : container live = .ok item) (has : item.field? name = some value) :
    container? live = some item := by
  simp only [container, bind_eq_ok_iff] at read
  obtain ⟨spec, ofLive, template, ofSpec, instances, ofTemplate, containers, ofInstances,
    isFirst⟩ := read
  have firstItem := firstItem?_of_first isFirst has
  have notNull : containers ≠ .null := by
    rintro rfl
    cases firstItem
  have inInstances := field?_of_fieldOr ofInstances notNull
  have inTemplate := field?_of_fieldOr ofTemplate (ne_empty_of_field? inInstances)
  have inSpec := field?_of_fieldOr ofSpec (ne_empty_of_field? inTemplate)
  have inLive := field?_of_fieldOr ofLive (ne_empty_of_field? inSpec)
  simp only [container?, dig?, inLive, inSpec, inTemplate, inInstances, Option.bind_some, firstItem]

theorem container_of_container? {item : Json} (has : container? live = some item) :
    container live = .ok item := by
  simp only [container?, dig?, Option.bind_eq_some_iff] at has
  obtain ⟨containers, ⟨spec, inLive, template, inSpec, instances, inTemplate, last, inInstances,
    same⟩, isFirst⟩ := has
  cases same
  simp only [container, specOf, bind_eq_ok_iff]
  exact ⟨spec, fieldOr_of_field? inLive _, template, fieldOr_of_field? inSpec _, instances,
    fieldOr_of_field? inTemplate _, containers, fieldOr_of_field? inInstances _,
    first_of_firstItem? isFirst _⟩

/-- The step sees no difference exactly where replicas and image are as wanted. -/
theorem diff_eq_nil_iff (live : Json) :
    diff replicas image live = .ok [] ↔ isAligned replicas image live = true := by
  simp only [diff, bind_eq_ok_iff, pure, Except.pure, Except.ok.injEq, List.append_eq_nil_iff,
    changedIf_eq_nil_iff, Bool.not_eq_eq_eq_not, Bool.not_false, isAligned, Bool.and_eq_true,
    Option.any_eq_true, dig?, Option.bind_eq_some_iff]
  constructor
  · rintro ⟨spec, ofLive, count, ofSpec, item, isContainer, own, ofItem, sameCount, sameImage⟩
    have inSpec := field?_of_isNumber ofSpec sameCount
    have inItem := field?_of_isText ofItem sameImage
    have inLive := field?_of_fieldOr ofLive (ne_empty_of_field? inSpec)
    exact ⟨⟨count, ⟨spec, inLive, count, inSpec, rfl⟩, sameCount⟩,
      ⟨own, ⟨item, container?_of_container isContainer inItem, inItem⟩, sameImage⟩⟩
  · rintro ⟨⟨count, ⟨spec, inLive, last, inSpec, same⟩, sameCount⟩,
      ⟨own, ⟨item, isContainer, inItem⟩, sameImage⟩⟩
    cases same
    exact ⟨spec, fieldOr_of_field? inLive _, count, fieldOr_of_field? inSpec _, item,
      container_of_container? isContainer, own, fieldOr_of_field? inItem _, sameCount, sameImage⟩

theorem isAligned_congr {other : Json} (same : live.field? "spec" = other.field? "spec") :
    isAligned replicas image live = isAligned replicas image other := by
  simp only [isAligned, container?, dig?, same]

/-- An edit that goes through leaves the owned fields as wanted and changes nothing next
to them. -/
theorem applied (edit : applyDiff replicas image live = ⟨edited, none⟩) :
    isAligned replicas image edited = true ∧
      ∀ name, name ≠ "spec" → edited.field? name = live.field? name := by
  simp only [applyDiff, Edited.andThen_eq_ok_iff, Edited.start] at edit
  obtain ⟨half, ⟨start, same, scaled⟩, imaged⟩ := edit
  cases same
  obtain ⟨fields, spec, counted, rfl, -, counting, rfl⟩ := changeEntry_eq_ok_iff.1 scaled
  obtain ⟨count, rfl, rfl⟩ := assign_eq_ok_iff.1 counting
  obtain ⟨spec, newSpec, inLive, ofSpec, rfl⟩ := changeEntry_obj_eq_ok_iff.1 imaged
  rw [Fields.get?_set_self] at inLive
  cases inLive
  obtain ⟨template, newTemplate, inSpec, ofTemplate, rfl⟩ := changeEntry_obj_eq_ok_iff.1 ofSpec
  obtain ⟨own, instances, newInstances, rfl, inTemplate, ofInstances, rfl⟩ :=
    changeEntry_eq_ok_iff.1 ofTemplate
  obtain ⟨own', containers, newContainers, rfl, inInstances, ofContainers, rfl⟩ :=
    changeEntry_eq_ok_iff.1 ofInstances
  obtain ⟨item, rest, rfl⟩ := eq_arr_of_changeFirst ofContainers
  obtain ⟨newItem, ofItem, rfl⟩ := changeFirst_eq_ok_iff.1 ofContainers
  obtain ⟨parts, rfl, rfl⟩ := assign_eq_ok_iff.1 ofItem
  constructor
  · have sameImage : (Json.str image).isText image = true := (isText_iff image).2 rfl
    have sameCount : (Json.int replicas).isNumber replicas = true := (isNumber_int_iff _ _).2 rfl
    have apart : Fields.get? (Fields.set (Fields.set count "replicas" (.int replicas)) "template"
        (.obj (Fields.set own "spec" (.obj (Fields.set own' "containers"
          (.arr (.obj (Fields.set parts "image" (.str image)) :: rest))))))) "replicas" =
        some (.int replicas) := by
      rw [Fields.get?_set_of_ne _ _ (by decide), Fields.get?_set_self]
    simp only [isAligned, container?, dig?, field?, Fields.get?_set_self, Option.bind_some,
      firstItem?, apart, Option.any_some, sameImage, sameCount, Bool.and_self]
  · intro name beside
    simp only [field?]
    rw [Fields.get?_set_of_ne _ _ beside, Fields.get?_set_of_ne _ _ beside]

/-- A workload with containers, all of them records. -/
def HasContainers (live : Json) : Prop :=
  ∃ items, live.dig? ["spec", "template", "spec", "containers"] = some (.arr items) ∧
    items ≠ [] ∧ ∀ item ∈ items, item.IsRecord

/-- A workload with containers can be compared and edited. -/
theorem alignable (hasContainers : HasContainers live) :
    (∃ changed, diff replicas image live = .ok changed) ∧
      ∃ edited, applyDiff replicas image live = ⟨edited, none⟩ := by
  obtain ⟨items, path, nonempty, records⟩ := hasContainers
  cases items with
  | nil => exact absurd rfl nonempty
  | cons item rest =>
      obtain ⟨parts, rfl⟩ := records item (List.mem_cons_self ..)
      have isContainer : container live = .ok (.obj parts) := by
        refine container_of_container? ?_
        simp only [container?, path, Option.bind_some, firstItem?]
      obtain ⟨fields, spec, rfl, inLive, path⟩ := dig?_cons_eq_some_iff.1 path
      obtain ⟨own, template, rfl, inSpec, path⟩ := dig?_cons_eq_some_iff.1 path
      obtain ⟨own', instances, rfl, inTemplate, path⟩ := dig?_cons_eq_some_iff.1 path
      obtain ⟨own'', containers, rfl, inInstances, same⟩ := dig?_cons_eq_some_iff.1 path
      cases same
      constructor
      · simp only [diff, isContainer, specOf, fieldOr, inLive, bind, Except.bind, pure,
          Except.pure, Option.getD_some]
        exact ⟨_, rfl⟩
      · have scaled : (Json.obj fields).changeEntry "spec" (·.assign "replicas" (.int replicas)) =
            .ok (.obj (Fields.set fields "spec" (.obj (Fields.set own "replicas" (.int replicas))))) :=
          changeEntry_obj_eq_ok_iff.2 ⟨_, _, inLive, rfl, rfl⟩
        have still : Fields.get? (Fields.set own "replicas" (.int replicas)) "template" =
            some (.obj own') := by
          rw [Fields.get?_set_of_ne _ _ (by decide), inSpec]
        have imaged : ∃ edited, (Json.obj (Fields.set fields "spec"
            (.obj (Fields.set own "replicas" (.int replicas))))).changeEntry "spec"
              (·.changeEntry "template" (·.changeEntry "spec" (·.changeEntry "containers"
                (·.changeFirst (·.assign "image" (.str image)))))) = .ok edited := by
          refine exists_changeEntry (Fields.get?_set_self _ _ _) ?_
          refine exists_changeEntry still ?_
          refine exists_changeEntry inTemplate ?_
          refine exists_changeEntry inInstances ?_
          exact ⟨_, rfl⟩
        obtain ⟨edited, imaged⟩ := imaged
        exact ⟨edited, Edited.andThen_eq_ok_iff.2
          ⟨_, Edited.andThen_eq_ok_iff.2 ⟨_, rfl, scaled⟩, imaged⟩⟩

end WorkloadStep

/-! ## Endpoints -/

namespace EndpointStep

open Json

variable {servicePort containerPort : Int} {ports live edited : Json}

/-- The first port of an endpoint, if there is one. -/
def port? (live : Json) : Option Json :=
  (live.dig? ["spec", "ports"]).bind Json.firstItem?

/-- The first port leads from the service port to the container port. -/
def isAligned (servicePort containerPort : Int) (live : Json) : Bool :=
  ((port? live).bind (·.field? "port")).any (·.isNumber servicePort) &&
    ((port? live).bind (·.field? "targetPort")).any (·.isNumber containerPort)

theorem port?_of_port {item value : Json} {name : String} (read : port live = .ok item)
    (has : item.field? name = some value) : port? live = some item := by
  simp only [port, bind_eq_ok_iff] at read
  obtain ⟨spec, ofLive, ports, ofSpec, isFirst⟩ := read
  have firstItem := firstItem?_of_first isFirst has
  have notNull : ports ≠ .null := by
    rintro rfl
    cases firstItem
  have inSpec := field?_of_fieldOr ofSpec notNull
  have inLive := field?_of_fieldOr ofLive (ne_empty_of_field? inSpec)
  simp only [port?, dig?, inLive, inSpec, Option.bind_some, firstItem]

theorem port_of_port? {item : Json} (has : port? live = some item) : port live = .ok item := by
  simp only [port?, dig?, Option.bind_eq_some_iff] at has
  obtain ⟨ports, ⟨spec, inLive, last, inSpec, same⟩, isFirst⟩ := has
  cases same
  simp only [port, specOf, bind_eq_ok_iff]
  exact ⟨spec, fieldOr_of_field? inLive _, ports, fieldOr_of_field? inSpec _,
    first_of_firstItem? isFirst _⟩

/-- The step sees no difference exactly where the first port is as wanted. -/
theorem diff_eq_nil_iff (live : Json) :
    diff servicePort containerPort live = .ok [] ↔
      isAligned servicePort containerPort live = true := by
  simp only [diff, bind_eq_ok_iff, pure, Except.pure, Except.ok.injEq, List.append_eq_nil_iff,
    changedIf_eq_nil_iff, Bool.not_eq_eq_eq_not, Bool.not_false, isAligned, Bool.and_eq_true,
    Option.any_eq_true, Option.bind_eq_some_iff]
  constructor
  · rintro ⟨item, isPort, own, ofItem, item', isPort', target, ofItem', samePort, sameTarget⟩
    have inItem := field?_of_isNumber ofItem samePort
    have inItem' := field?_of_isNumber ofItem' sameTarget
    exact ⟨⟨own, ⟨item, port?_of_port isPort inItem, inItem⟩, samePort⟩,
      ⟨target, ⟨item', port?_of_port isPort' inItem', inItem'⟩, sameTarget⟩⟩
  · rintro ⟨⟨own, ⟨item, isPort, inItem⟩, samePort⟩,
      ⟨target, ⟨item', isPort', inItem'⟩, sameTarget⟩⟩
    exact ⟨item, port_of_port? isPort, own, fieldOr_of_field? inItem _, item',
      port_of_port? isPort', target, fieldOr_of_field? inItem' _, samePort, sameTarget⟩

theorem isAligned_congr {other : Json} (same : live.field? "spec" = other.field? "spec") :
    isAligned servicePort containerPort live = isAligned servicePort containerPort other := by
  simp only [isAligned, port?, dig?, same]

/-- Ports that can be compared and written: none, null, or a list of records, in a
section that may be absent. -/
def HasPorts (live : Json) : Prop :=
  ∀ spec, live.field? "spec" = some spec → spec.IsRecord ∧
    ∀ ports, spec.field? "ports" = some ports → ports = .null ∨
      ∃ items, ports = .arr items ∧ ∀ item ∈ items, item.IsRecord

theorem alignable (isRecord : live.IsRecord) (hasPorts : HasPorts live) :
    (∃ changed, diff servicePort containerPort live = .ok changed) ∧
      ∃ edited, applyDiff ports live = ⟨edited, none⟩ := by
  obtain ⟨fields, rfl⟩ := isRecord
  obtain ⟨own, inLive, hasItems⟩ : ∃ own, (Fields.get? fields "spec").getD (.obj []) = .obj own ∧
      ∀ ports, Fields.get? own "ports" = some ports → ports = .null ∨
        ∃ items, ports = .arr items ∧ ∀ item ∈ items, item.IsRecord := by
    cases found : Fields.get? fields "spec" with
    | none => exact ⟨[], rfl, fun ports impossible => by cases impossible⟩
    | some spec =>
        obtain ⟨⟨own, rfl⟩, hasItems⟩ := hasPorts spec found
        exact ⟨own, rfl, hasItems⟩
  have isPort : ∃ parts, port (.obj fields) = .ok (.obj parts) := by
    simp only [port, specOf, fieldOr, inLive, bind, Except.bind]
    cases found : Fields.get? own "ports" with
    | none => exact ⟨[], rfl⟩
    | some ports =>
        rcases hasItems ports found with rfl | ⟨items, rfl, records⟩
        · exact ⟨[], rfl⟩
        · cases items with
          | nil => exact ⟨[], rfl⟩
          | cons item rest =>
              obtain ⟨parts, rfl⟩ := records item (List.mem_cons_self ..)
              exact ⟨parts, rfl⟩
  obtain ⟨parts, isPort⟩ := isPort
  constructor
  · simp only [diff, isPort, fieldOr, bind, Except.bind, pure, Except.pure]
    exact ⟨_, rfl⟩
  · exact Edited.exists_sectionField inLive "ports" ports

end EndpointStep

/-! ## Routes -/

namespace RouteStep

open Json

variable {routeClass : String} {live edited : Json}

/-- The class is as wanted. -/
def isAligned (routeClass : String) (live : Json) : Bool :=
  (live.dig? ["spec", "ingressClassName"]).any (·.isText routeClass)

/-- The step sees no difference exactly where the class is as wanted. -/
theorem diff_eq_nil_iff (live : Json) :
    diff routeClass live = .ok [] ↔ isAligned routeClass live = true := by
  simp only [diff, bind_eq_ok_iff, pure, Except.pure, Except.ok.injEq, changedIf_eq_nil_iff,
    Bool.not_eq_eq_eq_not, Bool.not_false, isAligned, Option.any_eq_true, dig?,
    Option.bind_eq_some_iff]
  constructor
  · rintro ⟨spec, ofLive, own, ofSpec, sameClass⟩
    have inSpec := field?_of_isText ofSpec sameClass
    have inLive := field?_of_fieldOr ofLive (ne_empty_of_field? inSpec)
    exact ⟨own, ⟨spec, inLive, own, inSpec, rfl⟩, sameClass⟩
  · rintro ⟨own, ⟨spec, inLive, last, inSpec, same⟩, sameClass⟩
    cases same
    exact ⟨spec, fieldOr_of_field? inLive _, own, fieldOr_of_field? inSpec _, sameClass⟩

theorem isAligned_congr {other : Json} (same : live.field? "spec" = other.field? "spec") :
    isAligned routeClass live = isAligned routeClass other := by
  simp only [isAligned, dig?, same]

/-- A section that can be compared and written, if there is one. -/
def HasSection (live : Json) : Prop :=
  ∀ spec, live.field? "spec" = some spec → spec.IsRecord

theorem alignable (isRecord : live.IsRecord) (hasSection : HasSection live) :
    (∃ changed, diff routeClass live = .ok changed) ∧
      ∃ edited, applyDiff routeClass live = ⟨edited, none⟩ := by
  obtain ⟨fields, rfl⟩ := isRecord
  have section_ : ∃ own, (Fields.get? fields "spec").getD (.obj []) = .obj own := by
    cases inLive : Fields.get? fields "spec" with
    | none => exact ⟨[], rfl⟩
    | some spec => exact hasSection spec inLive
  obtain ⟨own, section_⟩ := section_
  constructor
  · simp only [diff, specOf, fieldOr, section_, bind, Except.bind, pure, Except.pure]
    exact ⟨_, rfl⟩
  · exact Edited.exists_sectionField section_ "ingressClassName" (.str routeClass)

end RouteStep

/-! ## The steps of a declaration -/

/-- Where the object of a step is kept. -/
def EnsureStep.place (step : EnsureStep) : ObjectPlace :=
  .ofTexts step.kind step.namespaceName step.objectName

/-- A step that owns what `aligned` is about: it wants an aligned object, sees no
difference exactly in aligned objects, and aligns what it edits. -/
structure EnsureStep.Lawful (step : EnsureStep) (aligned : Json → Bool) : Prop where
  stated : Store.statedPlace step.kind step.desired = .ok step.place
  desired : aligned step.desired = true
  diff_eq_nil_iff : ∀ live, step.diff live = .ok [] ↔ aligned live = true
  congr : ∀ live other, live.field? "spec" = other.field? "spec" → aligned live = aligned other
  applied : ∀ live edited, step.applyDiff live = ⟨edited, none⟩ → aligned edited = true ∧
    ∀ name, name ≠ "spec" → edited.field? name = live.field? name

namespace Declaration

open Json

theorem workloadStep_lawful (d : Declaration) :
    d.workloadStep.Lawful (WorkloadStep.isAligned d.spec.replicas d.spec.image) where
  stated := rfl
  desired := by
    have sameImage : (Json.str d.spec.image).isText d.spec.image = true := (isText_iff _).2 rfl
    have sameCount : (Json.int d.spec.replicas).isNumber d.spec.replicas = true :=
      (isNumber_int_iff _ _).2 rfl
    simp [WorkloadStep.isAligned, WorkloadStep.container?, workloadStep, workload, container, dig?,
      field?, firstItem?, Fields.get?, sameImage, sameCount]
  diff_eq_nil_iff := WorkloadStep.diff_eq_nil_iff
  congr live other same := WorkloadStep.isAligned_congr same
  applied live edited edit := WorkloadStep.applied edit

theorem endpointStep_lawful (d : Declaration) : d.endpointStep.Lawful
    (EndpointStep.isAligned d.spec.servicePort d.spec.containerPort) where
  stated := rfl
  desired := by
    simp [EndpointStep.isAligned, EndpointStep.port?, endpointStep, endpoint, endpointPorts, dig?,
      field?, firstItem?, Fields.get?, isNumber_int_iff]
  diff_eq_nil_iff := EndpointStep.diff_eq_nil_iff
  congr live other same := EndpointStep.isAligned_congr same
  applied live edited edit := by
    obtain ⟨written, beside⟩ := Edited.of_sectionField edit
    refine ⟨?_, beside⟩
    simp [EndpointStep.isAligned, EndpointStep.port?, written, endpointPorts, field?, firstItem?,
      Fields.get?, isNumber_int_iff]

theorem routeStep_lawful (d : Declaration) (routeClass : String) :
    (d.routeStep routeClass).Lawful (RouteStep.isAligned routeClass) where
  stated := rfl
  desired := by
    have sameClass : (Json.str routeClass).isText routeClass = true := (isText_iff _).2 rfl
    simp [RouteStep.isAligned, routeStep, route, dig?, field?, Fields.get?, sameClass]
  diff_eq_nil_iff := RouteStep.diff_eq_nil_iff
  congr live other same := RouteStep.isAligned_congr same
  applied live edited edit := by
    obtain ⟨written, beside⟩ := Edited.of_sectionField edit
    have sameClass : (Json.str routeClass).isText routeClass = true := (isText_iff _).2 rfl
    refine ⟨?_, beside⟩
    simp only [RouteStep.isAligned, written, Option.any_some, sameClass]

end Declaration

end AppOperator
