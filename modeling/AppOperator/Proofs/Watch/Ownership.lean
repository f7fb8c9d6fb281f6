import AppOperator.Application
import AppOperator.Proofs.Reconcile.Upkeep

/-!
# The way back from a dependent

A declaration and the objects that a pass creates for it lead to one and the same key.  Neither
upkeep nor a change that spares the metadata of an object touches what leads there, so that every
event about a dependent, whenever it comes, asks for a pass for that key and for nothing else.
-/

set_option autoImplicit false

namespace AppOperator

open Json (field?_eq_some_iff dig?_cons_eq_some_iff dig?_of_field dig?_singleton)

variable {d : Declaration} {object kept : Json} {s after : Store} {at_ : ObjectPlace}
  {routeClass : Option String} {step : EnsureStep}

/-! ## Declarations -/

/-- The reader of a declaration and the watch of declarations read the same key. -/
theorem keyFor_of_ofResource (parses : Declaration.ofResource object = .ok d) :
    keyFor .simpleApp object = .ok (some d.key) ∧ d.namespaceName ≠ "" := by
  simp only [Declaration.ofResource, bind_eq_ok_iff, Checked.orFault_eq_ok_iff,
    Checked.both_eq_ok_iff, Checked.text_eq_ok_iff, pure, Except.pure, Except.ok.injEq,
    Prod.exists] at parses
  obtain ⟨metadata, isMetadata, name, named, namespaceName, inNamespace, uid, -, version, -,
    wanted, -, spec, -, observed, -, status, -, _, _, _, _, _, ⟨rfl, ofNamespace, -⟩, rfl⟩ := parses
  constructor
  · simp only [keyFor, if_true, isMetadata, statedNamespace, inNamespace, ofNamespace, named, bind,
      Except.bind, pure, Except.pure]
    rfl
  · rintro rfl
    unfold Json.orElse at ofNamespace
    split at ofNamespace
    · next holds =>
        rw [ofNamespace] at holds
        cases holds
    · exact absurd (Json.str.inj ofNamespace) (by decide)

/-! ## Dependents -/

/-- An object that names a declaration as its only owner and is in its namespace. -/
structure OwnedBy (d : Declaration) (object : Json) : Prop where
  owners : object.dig? ["metadata", "ownerReferences"] = some (.arr [d.ownerReference])
  namespaceName : object.dig? ["metadata", "namespace"] = some (.str d.namespaceName)

namespace OwnedBy

theorem congr (owned : OwnedBy d object)
    (owners : kept.dig? ["metadata", "ownerReferences"] =
      object.dig? ["metadata", "ownerReferences"])
    (namespaceName : kept.dig? ["metadata", "namespace"] = object.dig? ["metadata", "namespace"]) :
    OwnedBy d kept :=
  ⟨owners.trans owned.owners, namespaceName.trans owned.namespaceName⟩

theorem upkept (owned : OwnedBy d object) (upkept : Upkept object kept) : OwnedBy d kept :=
  owned.congr (upkept.beside _ (by decide)) (upkept.beside _ (by decide))

theorem metadata (owned : OwnedBy d object) : ∃ metadata,
    object.fieldOr "metadata" (.obj []) = .ok (.obj metadata) ∧
      Fields.get? metadata "ownerReferences" = some (.arr [d.ownerReference]) ∧
      Fields.get? metadata "namespace" = some (.str d.namespaceName) := by
  obtain ⟨fields, inner, rfl, has, leads⟩ := dig?_cons_eq_some_iff.1 owned.owners
  have inNamespace := owned.namespaceName
  rw [dig?_of_field has, dig?_singleton] at inNamespace
  obtain ⟨metadata, rfl, inNamespace⟩ := field?_eq_some_iff.1 inNamespace
  rw [dig?_singleton] at leads
  exact ⟨metadata, by rw [Json.fieldOr_obj, has, Option.getD_some], leads, inNamespace⟩

theorem ownerKey (owned : OwnedBy d object) (named : d.namespaceName ≠ "") :
    ownerKey object = .ok (some d.key) := by
  obtain ⟨metadata, isMetadata, owners, inNamespace⟩ := owned.metadata
  have isNamespace : (Json.str d.namespaceName).orElse (.str defaultNamespace) =
      .str d.namespaceName := orElse_of_holds (by simp [Json.holds, named])
  have elements : ((Json.arr [d.ownerReference]).orElse (.arr [])).elements =
      .ok [d.ownerReference] := rfl
  have controls : firstController [d.ownerReference] = .ok (some d.ownerReference) := rfl
  have isName : d.ownerReference.entry "name" = .ok (.str d.name) := rfl
  simp only [AppOperator.ownerKey, isMetadata, Json.fieldOr_obj, owners, Option.getD_some, elements,
    controls, statedNamespace, inNamespace, isNamespace, isName, bind, Except.bind, pure,
    Except.pure]
  rfl

end OwnedBy

theorem ownedBy_desired (among : step ∈ d.steps routeClass) : OwnedBy d step.desired := by
  rcases Declaration.mem_steps_iff.1 among with rfl | rfl | ⟨name, -, rfl⟩ <;> exact ⟨rfl, rfl⟩

/-- Others leave the metadata of an object as it is but for its version. -/
def MetadataSpared (at_ : ObjectPlace) (before after : Store) : Prop :=
  ∀ object, before.get? at_ = some object → ∃ kept, after.get? at_ = some kept ∧
    ∀ name, name ≠ "resourceVersion" →
      kept.dig? ["metadata", name] = object.dig? ["metadata", name]

/-- What a pass has created for a declaration stays the declaration's own. -/
theorem ownedBy_since {pass : RoutedPass} (creates : pass.Creates d at_ s) (inOrder : s.InOrder)
    (since : Since (MetadataSpared at_) (pass.run s).2 after) :
    ∃ object, after.get? at_ = some object ∧ OwnedBy d object := by
  induction since with
  | start =>
      obtain ⟨object, step, found, among, -, upkept⟩ := creates.made inOrder
      exact ⟨object, found, (ownedBy_desired among).upkept upkept⟩
  | passed earlier later ih =>
      obtain ⟨object, found, owned⟩ := ih
      have ordered := earlier.inOrder (pass.inOrder inOrder)
      obtain ⟨kept, found, upkept⟩ := (later.tended ordered creates.owned).kept object found
      exact ⟨kept, found, owned.upkept upkept⟩
  | changed earlier ordered spared ih =>
      obtain ⟨object, found, owned⟩ := ih
      obtain ⟨kept, found, same⟩ := spared object found
      exact ⟨kept, found, owned.congr (same _ (by decide)) (same _ (by decide))⟩

/-! ## Events -/

/-- An event about an object of a declaration puts the key of the declaration into the queue. -/
theorem OwnedBy.step? {a : Application} {kind : ResourceKind} {loop : WatchLoop} {type : Json}
    (owned : OwnedBy d object) (named : d.namespaceName ≠ "")
    (isLoop : a.watcher.loop? kind = some loop) (watching : loop.stage = .watching)
    (notDeclarations : kind ≠ .simpleApp) (notBookmark : type.isText "BOOKMARK" = false) :
    ∃ next, a.step? (.watch kind (.event ⟨type, object⟩)) = some next ∧
      next.controller = a.controller.enqueue d.key := by
  have sameKind : loop.kind = kind := by simpa using List.find?_some isLoop
  obtain ⟨metadata, isMetadata, -⟩ := owned.metadata
  have position : WatchEvent.position ⟨type, object⟩ loop.position =
      .ok ((Fields.get? metadata "resourceVersion").getD loop.position) := by
    simp only [WatchEvent.position, isMetadata, bind, Except.bind, Json.fieldOr_obj]
  have asked : WatchEvent.asked ⟨type, object⟩ a.controller.isTaking kind = ([d.key], none) := by
    simp only [WatchEvent.asked, WatchEvent.isBookmark, notBookmark, Bool.false_eq_true, if_false,
      AppOperator.asked, keyFor, notDeclarations, owned.ownerKey named]
    rfl
  simp only [Application.step?, Watcher.turn, isLoop, WatchLoop.step, watching, position, sameKind,
    asked, bind, Option.bind, pure, Option.map]
  exact ⟨_, rfl, rfl⟩

/-- A declaration and its dependents lead to one key.  What a pass has created for a declaration
still leads there after any passes, whatever failures they meet, and after any changes by others
that spare its metadata; and every event about it that is not a bookmark puts this key, and no
other, into the queue. -/
theorem dependents_lead_back :
    (∀ object d, Declaration.ofResource object = .ok d →
      keyFor .simpleApp object = .ok (some d.key) ∧ ownerKey d.workload = .ok (some d.key) ∧
        ownerKey d.endpoint = .ok (some d.key) ∧
        ∀ routeClass, ownerKey (d.route routeClass) = .ok (some d.key)) ∧
    ∀ (s : Store) (pass : RoutedPass) (d : Declaration) (at_ : ObjectPlace), s.InOrder →
      pass.Creates d at_ s → ∀ after, Since (MetadataSpared at_) (pass.run s).2 after →
      ∃ object, after.get? at_ = some object ∧ ownerKey object = .ok (some d.key) ∧
        ∀ (a : Application) (kind : ResourceKind) (loop : WatchLoop) (type : Json),
          kind.name = at_.kind → a.watcher.loop? kind = some loop → loop.stage = .watching →
          type.isText "BOOKMARK" = false →
          ∃ next, a.step? (.watch kind (.event ⟨type, object⟩)) = some next ∧
            next.controller = a.controller.enqueue d.key := by
  constructor
  · intro object d parses
    obtain ⟨leads, named⟩ := keyFor_of_ofResource parses
    have workload : OwnedBy d d.workload := ⟨rfl, rfl⟩
    have endpoint : OwnedBy d d.endpoint := ⟨rfl, rfl⟩
    have route : ∀ routeClass, OwnedBy d (d.route routeClass) := fun _ => ⟨rfl, rfl⟩
    exact ⟨leads, workload.ownerKey named, endpoint.ownerKey named,
      fun routeClass => (route routeClass).ownerKey named⟩
  · intro s pass d at_ inOrder creates after since
    obtain ⟨object, found, owned⟩ := ownedBy_since creates inOrder since
    obtain ⟨declared, -, parses⟩ := creates.declared
    have named := (keyFor_of_ofResource parses).2
    refine ⟨object, found, owned.ownerKey named, ?_⟩
    intro a kind loop type sameKind isLoop watching notBookmark
    refine owned.step? named isLoop watching ?_ notBookmark
    -- declarations are not among the dependents, so their loop never sees the object
    rintro rfl
    exact creates.owned sameKind.symm

/-- An application that watches endpoints. -/
def watchingApplication : Application where
  client := .ofSettings .default
  controller := ⟨.empty, ⟨1, 300, 0⟩, 5, 100, true, [], []⟩
  watcher := { Watcher.new none .default with
    running := true
    loops := [⟨.service, .str "4", .watching⟩] }
  probe := none
  stage := .running

/-- An endpoint still leads to its declaration after others have removed the workload and another
pass has created it again. -/
theorem sample_endpoint_leads_back : ∃ declared d endpoint next,
    Declaration.ofResource declared = .ok d ∧
      keyFor .simpleApp declared = .ok (some sampleKey) ∧
      ((routedPass "nginx").run (((routedPass "nginx").run sampleStore).2.remove
        (.ofTexts .deployment "default" "web"))).2.get? (.ofTexts .service "default" "web") =
          some endpoint ∧
      watchingApplication.step? (.watch .service (.event ⟨.str "MODIFIED", endpoint⟩)) =
        some next ∧
      next.controller = watchingApplication.controller.enqueue sampleKey := by
  obtain ⟨declared, stored, d, parses, isKey⟩ : ∃ declared,
      sampleStore.get? sampleKey.place = some declared ∧
        ∃ d, Declaration.ofResource declared = .ok d ∧ d.key = sampleKey :=
    ⟨_, rfl, _, rfl, rfl⟩
  have inForce : (RouteClassSource.fixed (some "nginx")).resolve = some "nginx" := by rfl
  have creates : (routedPass "nginx").Creates d (.ofTexts .service "default" "web") sampleStore := {
    declared := ⟨declared, stored, parses⟩
    owned := (by decide : "Service" ≠ "SimpleApp")
    absent := rfl
    present := by
      simp only [RoutedPass.run, routedPass, inForce]
      rfl }
  have inOrder := sampleStore_reached.inOrder
  have removed : Since (MetadataSpared (.ofTexts .service "default" "web"))
      ((routedPass "nginx").run sampleStore).2 (((routedPass "nginx").run sampleStore).2.remove
        (.ofTexts .deployment "default" "web")) := by
    refine .changed .start (((routedPass "nginx").inOrder inOrder).remove _) ?_
    intro object found
    refine ⟨object, ?_, fun _ _ => rfl⟩
    rw [Store.get?_remove]
    exact found
  obtain ⟨leads, back⟩ := dependents_lead_back
  obtain ⟨endpoint, found, -, events⟩ := back sampleStore (routedPass "nginx") d _ inOrder creates _
    (.passed removed (routedPass "nginx"))
  obtain ⟨next, stepped, enqueued⟩ :=
    events watchingApplication .service _ (.str "MODIFIED") rfl rfl rfl rfl
  refine ⟨declared, d, endpoint, next, parses, ?_, found, stepped, ?_⟩
  · rw [(leads declared d parses).1, isKey]
  · rw [enqueued, isKey]

end AppOperator
