import AppOperator.Proofs.Json.Paths
import AppOperator.Proofs.Reconcile.Routes

/-!
# The upkeep of dependents

An object that a pass creates is the one that a step wants, with an identity and a version, and
passes after that write in nothing but the fields that steps own (`Upkept`).  So what is stored
after any history of passes and of changes by others can be led back to the pass that created it
(`exists_creation`).
-/

set_option autoImplicit false

namespace AppOperator

open Json (SameBut)
open Store
open Declaration (mem_steps_iff)

variable {s after : Store} {kind : ResourceKind} {object kept edited written live : Json}

/-! ## What is assigned and what is edited -/

namespace Store

theorem sameBut_of_withVersion {version : Json} (marked : withVersion object version = .ok written) :
    SameBut [["metadata", "resourceVersion"]] object written := by
  obtain ⟨fields, metadata, rfl, has, rfl⟩ := withVersion_eq_ok_iff.1 marked
  have isOld : (Fields.get? fields "metadata").getD (.obj []) = .obj metadata := by
    rw [has, Option.getD_some]
  have inside : SameBut [["resourceVersion"]] (.obj metadata)
      (.obj (Fields.set metadata "resourceVersion" version)) :=
    .field [[]] (List.cons_ne_nil _ _) rfl (.whole _ _)
  exact .field [["resourceVersion"]] (List.cons_ne_nil _ _) isOld inside

/-- A create that goes through stores the object as it is seeded. -/
theorem create_eq_seeded {at_ : ObjectPlace} (stated : statedPlace kind object = .ok at_)
    (created : s.create kind object = (.ok written, after)) : ∃ fields metadata before,
      object = .obj fields ∧ Fields.get? fields "metadata" = some (.obj metadata) ∧
        written = seededObject before fields metadata := by
  simp only [create, stated] at created
  obtain ⟨-, usable_, created⟩ := answering_eq_ok_iff.1 created
  obtain ⟨fields, metadata, name, rfl, has, named, place⟩ := statedPlace_eq_ok_iff.1 stated
  split at created
  · cases created
  · rw [seed_obj_of_stated has named usable_ place] at created
    cases created
    exact ⟨fields, metadata, _, rfl, has, rfl⟩

/-- An object that states its namespace is stored with an identity and a version besides. -/
theorem sameBut_of_create {at_ : ObjectPlace} {namespaceName : Json}
    (stated : statedPlace kind object = .ok at_)
    (inNamespace : object.dig? ["metadata", "namespace"] = some namespaceName)
    (created : s.create kind object = (.ok written, after)) :
    SameBut [["metadata", "uid"], ["metadata", "resourceVersion"]] object written := by
  obtain ⟨fields, metadata, before, rfl, has, rfl⟩ := create_eq_seeded stated created
  have whole : withDefault fields "metadata" (.obj []) = fields := by
    simp only [withDefault, has, Option.isSome_some, if_true]
  have isOld : (Fields.get? fields "metadata").getD (.obj []) = .obj metadata := by
    rw [has, Option.getD_some]
  have hasNamespace : Fields.get? metadata "namespace" = some namespaceName := by
    rw [Json.dig?_of_field has, Json.dig?_singleton] at inNamespace
    exact inNamespace
  rw [seededObject, whole]
  refine .field [["uid"], ["resourceVersion"]] (List.cons_ne_nil _ _) isOld ?_
  refine .records ["uid", "resourceVersion"] (List.cons_ne_nil _ _) fun other beside => ?_
  simp only [List.mem_cons, List.not_mem_nil, or_false, not_or] at beside
  by_cases isNamespace : other = "namespace"
  · rw [isNamespace, get?_seededMetadata_namespace, hasNamespace, Option.getD_some]
  · exact get?_seededMetadata _ _ isNamespace beside.1 beside.2

end Store

theorem Edited.sameBut_of_sectionField {name : String} {value : Json}
    (edit : sectionField name value live = ⟨edited, none⟩) :
    SameBut [["spec", name]] live edited := by
  obtain ⟨start, same, changed⟩ := andThen_eq_ok_iff.1 edit
  cases same
  exact .of_changeEntryOrNew changed fun _ _ => .of_assign

theorem WorkloadStep.sameBut_of_applyDiff {replicas : Int} {image : String}
    (edit : applyDiff replicas image live = ⟨edited, none⟩) :
    SameBut [["spec", "replicas"], ["spec", "template", "spec", "containers"]] live edited := by
  simp only [applyDiff, Edited.andThen_eq_ok_iff, Edited.start] at edit
  obtain ⟨scaled, ⟨start, same, scales⟩, images⟩ := edit
  cases same
  have first : SameBut [["spec", "replicas"]] live scaled :=
    .of_changeEntry scales fun _ _ => .of_assign
  have second : SameBut [["spec", "template", "spec", "containers"]] scaled edited := by
    refine .of_changeEntry images fun _ _ inSpec => ?_
    refine .of_changeEntry inSpec fun _ _ inTemplate => ?_
    refine .of_changeEntry inTemplate fun _ _ inInstances => ?_
    exact .of_changeEntry inInstances fun old new _ => .whole old new
  exact (first.mono (by simp)).trans (second.mono (by simp))

/-! ## Objects that are kept up -/

/-- Where stores and steps write in an object of an application. -/
def upkeepPaths : List (List String) :=
  [["metadata", "uid"], ["metadata", "resourceVersion"], ["spec", "replicas"],
    ["spec", "template", "spec", "containers"], ["spec", "ports"], ["spec", "ingressClassName"]]

/-- An object that is the same but for what stores and steps write, with ports that are as they
have been or those of a declaration. -/
structure Upkept (object kept : Json) : Prop where
  beside : SameBut upkeepPaths object kept
  ports : kept.dig? ["spec", "ports"] = object.dig? ["spec", "ports"] ∨
    ∃ d : Declaration, kept.dig? ["spec", "ports"] = some d.endpointPorts

namespace Upkept

theorem refl (object : Json) : Upkept object object :=
  ⟨.refl object, .inl rfl⟩

theorem trans {last : Json} (first : Upkept object kept) (second : Upkept kept last) :
    Upkept object last where
  beside := first.beside.trans second.beside
  ports := by
    rcases second.ports with same | written
    · rw [same]
      exact first.ports
    · exact .inr written

theorem of_sameBut {paths : List (List String)} (same : SameBut paths object kept)
    (among : paths ⊆ upkeepPaths) (notPorts : ∀ owned ∈ paths, Apart owned ["spec", "ports"]) :
    Upkept object kept :=
  ⟨same.mono among, .inl (same _ notPorts)⟩

end Upkept

variable {d : Declaration} {routeClass : Option String} {step : EnsureStep} {at_ : ObjectPlace}

theorem upkept_of_applyDiff (among : step ∈ d.steps routeClass)
    (edit : step.applyDiff live = ⟨edited, none⟩) : Upkept live edited := by
  rcases mem_steps_iff.1 among with rfl | rfl | ⟨name, -, rfl⟩
  · exact .of_sameBut (WorkloadStep.sameBut_of_applyDiff edit) (by decide) (by decide)
  · have edit : Edited.sectionField "ports" d.endpointPorts live = ⟨edited, none⟩ := edit
    exact ⟨(Edited.sameBut_of_sectionField edit).mono (by decide),
      .inr ⟨d, (Edited.of_sectionField edit).1⟩⟩
  · exact .of_sameBut (Edited.sameBut_of_sectionField edit) (by decide) (by decide)

theorem upkept_of_create (among : step ∈ d.steps routeClass)
    (created : s.create step.kind step.desired = (.ok written, after)) :
    Upkept step.desired written := by
  obtain ⟨aligned, lawful⟩ := Declaration.lawful_of_mem among
  have inNamespace : step.desired.dig? ["metadata", "namespace"] =
      some (.str step.namespaceName) := by
    rcases mem_steps_iff.1 among with rfl | rfl | ⟨name, -, rfl⟩ <;> rfl
  exact .of_sameBut (sameBut_of_create lawful.stated inNamespace created) (by decide) (by decide)

/-! ## What a pass does about a place -/

/-- An object that is there is kept up, and a new one comes of what a step wants. -/
structure Tended (wanted : EnsureStep → Prop) (at_ : ObjectPlace) (s after : Store) : Prop where
  kept : ∀ object, s.get? at_ = some object → ∃ kept, after.get? at_ = some kept ∧
    Upkept object kept
  created : ∀ kept, s.get? at_ = none → after.get? at_ = some kept → ∃ step, wanted step ∧
    (step.place == at_) = true ∧ Upkept step.desired kept

namespace Tended

variable {wanted : EnsureStep → Prop}

theorem of_get? (same : after.get? at_ = s.get? at_) : Tended wanted at_ s after where
  kept object found := ⟨object, same.trans found, .refl object⟩
  created kept absent found := by
    rw [same, absent] at found
    cases found

theorem trans {middle : Store} (first : Tended wanted at_ s middle)
    (second : Tended wanted at_ middle after) : Tended wanted at_ s after where
  kept object found := by
    obtain ⟨kept, found, upkept⟩ := first.kept object found
    obtain ⟨last, found, upkept'⟩ := second.kept kept found
    exact ⟨last, found, upkept.trans upkept'⟩
  created last absent found := by
    -- a new object comes of the second part, or of the first and is kept up in the second
    cases between : middle.get? at_ with
    | none => exact second.created last between found
    | some new =>
        obtain ⟨step, wants, here, upkept⟩ := first.created new absent between
        obtain ⟨kept, found', upkept'⟩ := second.kept new between
        cases found.symm.trans found'
        exact ⟨step, wants, here, upkept.trans upkept'⟩

theorem composes (wanted : EnsureStep → Prop) (at_ : ObjectPlace) :
    Composes (Tended wanted at_) where
  untouched objects := .of_get? (get?_of_objects objects at_)
  trans first second := first.trans second

/-- A write at the place of a step that is wanted. -/
theorem of_wrote (wants : wanted step) (wrote : Wrote s step.place written after)
    (kept : ∀ object, s.get? step.place = some object → Upkept object written)
    (created : s.get? step.place = none → Upkept step.desired written) :
    Tended wanted at_ s after := by
  cases here : step.place == at_ with
  | false => exact .of_get? (wrote.elsewhere at_ here)
  | true =>
      have stored : after.get? at_ = some written := (get?_congr here).symm.trans wrote.here
      have before : s.get? step.place = s.get? at_ := get?_congr here
      constructor
      · intro object found
        exact ⟨written, stored, kept object (before.trans found)⟩
      · intro new absent found
        cases stored.symm.trans found
        exact ⟨step, wants, here, created (before.trans absent)⟩

end Tended

theorem tended_ensure {wanted : EnsureStep → Prop} (wants : wanted step)
    (among : step ∈ d.steps routeClass) (at_ : ObjectPlace) :
    Brings (Tended wanted at_) step.ensure := by
  intro s inOrder
  have read : Tended wanted at_ s (step.readIn s) := .of_get? rfl
  obtain ⟨aligned, lawful⟩ := Declaration.lawful_of_mem among
  cases EnsureStep.leaves_ensure lawful inOrder with
  | untouched objects => exact .of_get? (get?_of_objects objects at_)
  | created absent create wrote =>
      refine read.trans (.of_wrote wants wrote (fun object found => ?_) fun _ => ?_)
      · cases absent.symm.trans found
      · exact upkept_of_create among create
  | updated found edit marked wrote =>
      refine read.trans (.of_wrote wants wrote (fun object stored => ?_) fun absent => ?_)
      · cases found.symm.trans stored
        exact (upkept_of_applyDiff among edit).trans
          (.of_sameBut (sameBut_of_withVersion marked) (by decide) (by decide))
      · cases found.symm.trans absent

namespace RoutedPass

/-- A step of the declaration that is stored for the key of a pass. -/
def Wants (pass : RoutedPass) (s : Store) (step : EnsureStep) : Prop :=
  ∃ object d, s.get? pass.key.place = some object ∧ Declaration.ofResource object = .ok d ∧
    step ∈ d.steps pass.source.resolve

/-- A pass tends every place but those of declarations, however it ends. -/
theorem tended (pass : RoutedPass) (inOrder : s.InOrder)
    (owned : at_.kind ≠ ResourceKind.simpleApp.name) :
    Tended (pass.Wants s) at_ s (pass.run s).2 := by
  have ordered : (pass.start s).InOrder := inOrder.of_objects rfl
  have started : Tended (pass.Wants s) at_ s (pass.start s) := .of_get? rfl
  refine started.trans ((Tended.composes _ at_).reconcile ordered ?_ fun d workload t inOrder => ?_)
  · intro object d stored parses step among
    exact tended_ensure ⟨object, d, stored, parses, among⟩ among at_
  · exact .of_get? (get?_run_reconcileStatus inOrder d workload owned)

/-- A pass for a stored declaration creates an object. -/
structure Creates (pass : RoutedPass) (d : Declaration) (at_ : ObjectPlace) (s : Store) :
    Prop where
  declared : ∃ object, s.get? pass.key.place = some object ∧
    Declaration.ofResource object = .ok d
  owned : at_.kind ≠ ResourceKind.simpleApp.name
  absent : s.get? at_ = none
  present : ((pass.run s).2.get? at_).isSome

theorem Creates.made {pass : RoutedPass} (creates : pass.Creates d at_ s) (inOrder : s.InOrder) :
    ∃ object step, (pass.run s).2.get? at_ = some object ∧ step ∈ d.steps pass.source.resolve ∧
      (step.place == at_) = true ∧ Upkept step.desired object := by
  obtain ⟨object, found⟩ := Option.isSome_iff_exists.1 creates.present
  obtain ⟨step, ⟨declared, other, stored, parses, among⟩, here, upkept⟩ :=
    (pass.tended inOrder creates.owned).created object creates.absent found
  obtain ⟨own, stored', parses'⟩ := creates.declared
  cases stored.symm.trans stored'
  cases parses.symm.trans parses'
  exact ⟨object, step, found, among, here, upkept⟩

end RoutedPass

/-! ## Histories -/

/-- The stores that a store may turn into by passes for any keys and by changes of others, each
of which spares something. -/
inductive Since (spares : Store → Store → Prop) (s : Store) : Store → Prop
  | start : Since spares s s
  | passed {before : Store} (earlier : Since spares s before) (pass : RoutedPass) :
      Since spares s (pass.run before).2
  | changed {before after : Store} (earlier : Since spares s before) (inOrder : after.InOrder)
      (spared : spares before after) : Since spares s after

variable {spares : Store → Store → Prop}

theorem Since.inOrder (since : Since spares s after) (inOrder : s.InOrder) : after.InOrder := by
  induction since with
  | start => exact inOrder
  | passed earlier pass ordered => exact pass.inOrder ordered
  | changed earlier ordered spared _ => exact ordered

/-- Where others leave a place alone that was empty, a pass has created what is there, and it has
been kept up since. -/
theorem exists_creation (since : Since spares s after) (inOrder : s.InOrder)
    (owned : at_.kind ≠ ResourceKind.simpleApp.name) (fresh : s.get? at_ = none)
    (spared : ∀ before after, spares before after → after.get? at_ = before.get? at_)
    (found : after.get? at_ = some object) :
    ∃ (middle : Store) (pass : RoutedPass) (d : Declaration) (step : EnsureStep),
      Since spares s middle ∧ pass.Creates d at_ middle ∧ Since spares (pass.run middle).2 after ∧
        step ∈ d.steps pass.source.resolve ∧ (step.place == at_) = true ∧
          Upkept step.desired object := by
  induction since generalizing object with
  | start =>
      cases fresh.symm.trans found
  | changed earlier ordered unchanged ih =>
      rw [spared _ _ unchanged] at found
      obtain ⟨middle, pass, d, step, first, creates, later, made⟩ := ih found
      exact ⟨middle, pass, d, step, first, creates, .changed later ordered unchanged, made⟩
  | @passed before earlier pass ih =>
      have ordered := earlier.inOrder inOrder
      have tended := pass.tended ordered owned
      -- this pass has created the object, or an earlier one has
      cases stored : before.get? at_ with
      | none =>
          obtain ⟨step, ⟨declared, d, isStored, parses, among⟩, here, upkept⟩ :=
            tended.created object stored found
          have creates : pass.Creates d at_ before :=
            ⟨⟨declared, isStored, parses⟩, owned, stored, by rw [found]; rfl⟩
          exact ⟨before, pass, d, step, earlier, creates, .start, among, here, upkept⟩
      | some old =>
          obtain ⟨middle, creator, d, step, first, creates, later, among, here, upkept⟩ := ih stored
          obtain ⟨kept, found', upkept'⟩ := tended.kept old stored
          cases found.symm.trans found'
          exact ⟨middle, creator, d, step, first, creates, .passed later pass, among, here,
            upkept.trans upkept'⟩

end AppOperator
