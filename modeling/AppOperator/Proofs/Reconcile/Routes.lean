import Mathlib.Data.List.TakeWhile
import AppOperator.RouteClass
import AppOperator.Proofs.Reconcile.Convergence
import AppOperator.Proofs.Reconcile.Writes

/-!
# Routes over many passes

Only the route phase of a pass calls for routes, and without a class there is none.  What it
writes is the live route with another class and another version, so that from one pass to the
next a stored route keeps everything else (`RoutesKept`).
-/

set_option autoImplicit false

namespace AppOperator

open Dialogue (run)
open Store

/-! ## The class in force -/

theorem Text.trim_eq_empty_iff (raw : String) :
    Text.trim raw = "" ↔ ∀ c ∈ raw.toList, Text.isSpace c = true := by
  have nothingLeft : Text.trim raw = "" ↔ Text.trimEnds Text.isSpace raw.toList = [] := by
    rw [Text.trim, Text.trimBy, ← String.toList_inj, String.toList_ofList]
    rfl
  rw [nothingLeft, Text.trimEnds, List.reverse_eq_nil_iff, List.dropWhile_eq_nil_iff]
  constructor
  · intro spaces c among
    rw [← List.takeWhile_append_dropWhile (p := Text.isSpace) (l := raw.toList)] at among
    rcases List.mem_append.1 among with among | among
    · exact List.mem_takeWhile_imp among
    · exact spaces c (List.mem_reverse.2 among)
  · intro spaces c among
    exact spaces c ((List.dropWhile_suffix _).subset (List.mem_reverse.1 among))

variable {source : RouteClassSource} {raw : String}

theorem resolve_of_blank (blank : ∀ raw, source.value = some raw →
    ∀ c ∈ raw.toList, Text.isSpace c = true) : source.resolve = none := by
  cases set : source.value with
  | none => simp [RouteClassSource.resolve, set]
  | some raw => simp [RouteClassSource.resolve, set, (Text.trim_eq_empty_iff raw).2 (blank raw set)]

theorem resolve_of_value (set : source.value = some raw) (something : Text.trim raw ≠ "") :
    source.resolve = some (Text.trim raw) := by
  simp [RouteClassSource.resolve, set, something]

/-! ## Routes that are kept -/

/-- The same, or records with the same fields but for one. -/
inductive AlikeBut (name : String) : Json → Json → Prop where
  | same (x : Json) : AlikeBut name x x
  | records {fields fields' : Fields}
      (beside : ∀ other, other ≠ name → Fields.get? fields' other = Fields.get? fields other) :
      AlikeBut name (.obj fields) (.obj fields')

/-- A section of a record; one that is not there counts as empty. -/
def sectionOf (name : String) (object : Json) : Json :=
  (object.field? name).getD (.obj [])

/-- A route with nothing changed but its class and its version, and nothing taken away. -/
structure RouteKept (object kept : Json) : Prop where
  beside : ∀ name, name ≠ "spec" → name ≠ "metadata" → kept.field? name = object.field? name
  spec : AlikeBut "ingressClassName" (sectionOf "spec" object) (sectionOf "spec" kept)
  metadata : AlikeBut "resourceVersion" (sectionOf "metadata" object) (sectionOf "metadata" kept)
  present : ∀ name, (object.field? name).isSome → (kept.field? name).isSome

/-- Every stored route stays, and is kept. -/
def RoutesKept (s after : Store) : Prop :=
  ∀ at_ object, at_.kind = ResourceKind.ingress.name → s.get? at_ = some object →
    ∃ kept, after.get? at_ = some kept ∧ RouteKept object kept

variable {s after middle : Store} {object kept last edited written : Json} {name : String}

theorem AlikeBut.trans {x y z : Json} (first : AlikeBut name x y) (second : AlikeBut name y z) :
    AlikeBut name x z := by
  cases first with
  | same x => exact second
  | records beside =>
      cases second with
      | same x => exact .records beside
      | records beside' =>
          exact .records fun other different =>
            (beside' other different).trans (beside other different)

theorem AlikeBut.set (fields : Fields) (name : String) (value : Json) :
    AlikeBut name (.obj fields) (.obj (Fields.set fields name value)) :=
  .records fun _ different => Fields.get?_set_of_ne fields value different

theorem RouteKept.refl (object : Json) : RouteKept object object :=
  ⟨fun _ _ _ => rfl, .same _, .same _, fun _ has => has⟩

theorem RouteKept.trans (first : RouteKept object kept) (second : RouteKept kept last) :
    RouteKept object last where
  beside name notSpec notMetadata :=
    (second.beside name notSpec notMetadata).trans (first.beside name notSpec notMetadata)
  spec := first.spec.trans second.spec
  metadata := first.metadata.trans second.metadata
  present name has := second.present name (first.present name has)

namespace RoutesKept

theorem of_get? (same : ∀ at_, at_.kind = ResourceKind.ingress.name →
    after.get? at_ = s.get? at_) : RoutesKept s after := by
  intro at_ object isRoute found
  exact ⟨object, (same at_ isRoute).trans found, .refl object⟩

theorem refl (s : Store) : RoutesKept s s :=
  .of_get? fun _ _ => rfl

theorem trans (first : RoutesKept s middle) (second : RoutesKept middle after) :
    RoutesKept s after := by
  intro at_ object isRoute found
  obtain ⟨kept, found, unchanged⟩ := first at_ object isRoute found
  obtain ⟨last, found, unchanged'⟩ := second at_ kept isRoute found
  exact ⟨last, found, unchanged.trans unchanged'⟩

/-- A write puts a new route where there was none, or keeps the one that was there. -/
theorem of_wrote {at_ : ObjectPlace} (wrote : Wrote s at_ written after)
    (keeps : ∀ object, s.get? at_ = some object → RouteKept object written) :
    RoutesKept s after := by
  intro other object _ found
  cases here : at_ == other with
  | false => exact ⟨object, (wrote.elsewhere other here).trans found, .refl object⟩
  | true =>
      rw [← get?_congr here] at found ⊢
      exact ⟨written, wrote.here, keeps object found⟩

end RoutesKept

theorem routeKept_of_withVersion {version : Json}
    (marked : withVersion object version = .ok written) : RouteKept object written := by
  obtain ⟨fields, metadata, rfl, has, rfl⟩ := withVersion_eq_ok_iff.1 marked
  have beside : ∀ name, name ≠ "metadata" → (Json.obj (Fields.set fields "metadata"
      (.obj (Fields.set metadata "resourceVersion" version)))).field? name =
      (Json.obj fields).field? name := fun name different => Fields.get?_set_of_ne _ _ different
  refine ⟨fun name _ notMetadata => beside name notMetadata, ?_, ?_, fun name present => ?_⟩
  · rw [sectionOf, sectionOf, beside "spec" (by decide)]
    exact .same _
  · simp only [sectionOf, Json.field?, has, Fields.get?_set_self, Option.getD_some]
    exact .set metadata _ _
  · by_cases isMetadata : name = "metadata"
    · subst isMetadata
      simp only [Json.field?, Fields.get?_set_self, Option.isSome_some]
    · rwa [beside name isMetadata]

theorem routeKept_of_sectionField {value : Json}
    (edit : Edited.sectionField "ingressClassName" value object = ⟨edited, none⟩) :
    RouteKept object edited := by
  obtain ⟨start, same, changed⟩ := Edited.andThen_eq_ok_iff.1 edit
  cases same
  obtain ⟨fields, newSpec, rfl, ofSpec, rfl⟩ := Json.changeEntryOrNew_eq_ok_iff.1 changed
  obtain ⟨own, isSection, rfl⟩ := Json.assign_eq_ok_iff.1 ofSpec
  have beside : ∀ name, name ≠ "spec" → (Json.obj (Fields.set fields "spec"
      (.obj (Fields.set own "ingressClassName" value)))).field? name =
      (Json.obj fields).field? name := fun name different => Fields.get?_set_of_ne _ _ different
  refine ⟨fun name notSpec _ => beside name notSpec, ?_, ?_, fun name present => ?_⟩
  · simp only [sectionOf, Json.field?, isSection, Fields.get?_set_self, Option.getD_some]
    exact .set own _ _
  · rw [sectionOf, sectionOf, beside "metadata" (by decide)]
    exact .same _
  · by_cases isSpec : name = "spec"
    · subst isSpec
      simp only [Json.field?, Fields.get?_set_self, Option.isSome_some]
    · rwa [beside name isSpec]

/-! ## Phases that are about other kinds -/

variable {d : Declaration} {key : ObjectKey} {routeClass : Option String} {step : EnsureStep}
  {kind : ResourceKind}

theorem avoids_createDesired (other : step.kind.name ≠ kind.name) :
    Avoids kind step.createDesired :=
  ⟨other, fun _ => trivial⟩

theorem avoids_align (other : step.kind.name ≠ kind.name) (live : Json) :
    Avoids kind (step.align live) := by
  unfold EnsureStep.align
  split
  · trivial
  · trivial
  · split
    · trivial
    · exact ⟨other, fun _ => trivial⟩

theorem avoids_ensure (other : step.kind.name ≠ kind.name) : Avoids kind step.ensure := by
  refine ⟨other, fun reply => ?_⟩
  dsimp only
  split
  · trivial
  · exact avoids_createDesired other
  · exact avoids_align other _

theorem avoids_reconcileStatus (d : Declaration) (workload : Option Json) :
    Avoids .ingress (reconcileStatus d workload) := by
  rcases reconcileStatus_cases d workload with ⟨result, same⟩ | ⟨_, object, -, same⟩
  · rw [same]
    trivial
  · rw [same]
    exact ⟨(by decide : "SimpleApp" ≠ "Ingress"), fun _ => trivial⟩

theorem avoids_fetch (key : ObjectKey) : Avoids .ingress (fetch key) :=
  ⟨(by decide : "SimpleApp" ≠ "Ingress"), fun _ => trivial⟩

/-- Without a class a pass does not call for routes. -/
theorem avoids_reconcile (key : ObjectKey) : Avoids .ingress (reconcile none key) := by
  rw [reconcile_eq]
  refine everywhere_orStop (avoids_fetch key) fun found => ?_
  cases found with
  | none => trivial
  | some d =>
      rw [passOf, passFor_eq]
      refine everywhere_orStop (avoids_ensure (by decide : "Deployment" ≠ "Ingress"))
        fun workload => ?_
      refine everywhere_orStop (avoids_ensure (by decide : "Service" ≠ "Ingress"))
        fun endpoint => ?_
      -- the route phase is skipped
      refine everywhere_orStop (P := fun call _ => call.kind.name ≠ ResourceKind.ingress.name)
        trivial fun route => ?_
      exact everywhere_orStop (avoids_reconcileStatus d workload.object) fun written => trivial

/-! ## The route phase -/

/-- A dialogue that keeps the routes of every store in order. -/
def KeepsRoutes {α : Type} (dialogue : ClientM α) : Prop :=
  ∀ s : Store, s.InOrder → RoutesKept s (dialogue.run answer s).2

theorem Avoids.keepsRoutes {α : Type} {dialogue : ClientM α} (avoids : Avoids .ingress dialogue) :
    KeepsRoutes dialogue :=
  fun _ inOrder => .of_get? fun _ isRoute => avoids.get?_run inOrder isRoute

/-- A new route is where there was none, and an updated one is the live one with another class and
another version. -/
theorem keepsRoutes_ensure (d : Declaration) (name : String) :
    KeepsRoutes (d.routeStep name).ensure := by
  intro s inOrder
  have read : RoutesKept s ((d.routeStep name).readIn s) := .of_get? fun _ _ => rfl
  cases EnsureStep.leaves_ensure (d.routeStep_lawful name) inOrder with
  | untouched objects => exact .of_get? fun at_ _ => get?_of_objects objects at_
  | created absent create wrote =>
      refine read.trans (.of_wrote wrote fun object found => ?_)
      cases absent.symm.trans found
  | updated found edit marked wrote =>
      refine read.trans (.of_wrote wrote fun object stored => ?_)
      cases found.symm.trans stored
      exact (routeKept_of_sectionField edit).trans (routeKept_of_withVersion marked)

theorem composes_routesKept : Composes RoutesKept where
  untouched objects := .of_get? fun at_ _ => get?_of_objects objects at_
  trans first second := first.trans second

theorem keepsRoutes_reconcile (routeClass : Option String) (key : ObjectKey) :
    KeepsRoutes (reconcile routeClass key) := by
  intro s inOrder
  refine composes_routesKept.reconcile inOrder ?_ fun d workload =>
    (avoids_reconcileStatus d workload).keepsRoutes
  intro object d _ _ step among
  rcases Declaration.mem_steps_iff.1 among with rfl | rfl | ⟨name, -, rfl⟩
  · exact (avoids_ensure (by decide : "Deployment" ≠ "Ingress")).keepsRoutes
  · exact (avoids_ensure (by decide : "Service" ≠ "Ingress")).keepsRoutes
  · exact keepsRoutes_ensure d name

/-! ## The class of a route -/

/-- A step that goes through leaves an aligned object, whatever it has been told of a live one. -/
theorem aligned_of_run {aligned : Json → Bool} {result : Ensured} (lawful : step.Lawful aligned)
    (inOrder : s.InOrder) (ran : step.ensure.run answer s = (.ok result, after)) :
    ∃ object, after.get? step.place = some object ∧ aligned object = true := by
  -- a read that reports the object missing may be wrong, and then the create is refused
  by_cases misled : ∃ fault, s.failure? .get step.kind = some fault ∧ fault.isNotFound = true
  · obtain ⟨fault, arranged, missing⟩ := misled
    have read : (s.get step.kind (.str step.namespaceName) (.str step.objectName)).1 =
        .error fault := by
      rw [get_fst, arranged]
    have nothing : EnsureStep.liveOf (.error fault) = .ok none := by
      simp only [EnsureStep.liveOf, missing, if_true]
    rw [EnsureStep.run_ensure, read, nothing, EnsureStep.run_createDesired] at ran
    cases created : (step.readIn s).create step.kind step.desired with
    | mk reply behind =>
        rw [created] at ran
        cases reply with
        | error fault => cases ran
        | ok object =>
            cases ran
            obtain ⟨at_, stated, -, -, wrote, beside⟩ := create_eq_ok created
            rw [lawful.stated] at stated
            cases stated
            exact ⟨object, wrote.here,
              (lawful.congr object _ (beside "spec" (by decide))).trans lawful.desired⟩
  · obtain ⟨object, ensures⟩ := EnsureStep.ensures_of_run lawful inOrder (fun fault arranged => by
      rw [Bool.eq_false_iff]
      exact fun missing => misled ⟨fault, arranged, missing⟩) ran
    exact ⟨object, ensures.stored, ensures.aligned⟩

/-- After a pass that succeeds under a class the objects of all its steps are aligned. -/
theorem aligned_of_passFor {report : PassReport} {aligned : Json → Bool} (inOrder : s.InOrder)
    (ran : (passFor d (some name)).run answer s = (.ok report, after))
    (success : report.success = true) (among : step ∈ d.steps (some name))
    (lawful : step.Lawful aligned) :
    ∃ object, after.get? step.place = some object ∧ aligned object = true := by
  obtain ⟨workload, endpoint, route, written, s₁, s₂, s₃, phases, -⟩ :=
    phases_of_success ran success
  have ordered₁ := inOrder_of_run inOrder d.workloadStep.ensure
  rw [phases.ensureWorkload] at ordered₁
  have ordered₂ := inOrder_of_run ordered₁ d.endpointStep.ensure
  rw [phases.ensureEndpoint] at ordered₂
  have ordered₃ := inOrder_of_run ordered₂ (d.ensureRoute (some name))
  rw [phases.ensureRoute] at ordered₃
  -- no phase writes to objects of the kind of an earlier one
  have endpointKeeps : ∀ at_ : ObjectPlace, at_.kind ≠ "Service" → s₂.get? at_ = s₁.get? at_ := by
    intro at_ other
    have kept := EnsureStep.get?_run_ensure d.endpointStep_lawful ordered₁ other
    rwa [phases.ensureEndpoint] at kept
  have routeKeeps : ∀ at_ : ObjectPlace, at_.kind ≠ "Ingress" → s₃.get? at_ = s₂.get? at_ := by
    intro at_ other
    have kept : ((d.ensureRoute (some name)).run answer s₂).2.get? at_ = s₂.get? at_ :=
      EnsureStep.get?_run_ensure (d.routeStep_lawful name) ordered₂ other
    rwa [phases.ensureRoute] at kept
  have statusKeeps : ∀ at_ : ObjectPlace, at_.kind ≠ "SimpleApp" →
      after.get? at_ = s₃.get? at_ := by
    intro at_ owned
    have kept := get?_run_reconcileStatus ordered₃ d workload.object owned
    rwa [phases.reconcileStatus] at kept
  rcases Declaration.mem_steps_iff.1 among with rfl | rfl | ⟨_, same, rfl⟩
  · obtain ⟨object, stored, isAligned⟩ := aligned_of_run lawful inOrder phases.ensureWorkload
    refine ⟨object, ?_, isAligned⟩
    rw [statusKeeps _ (by decide : "Deployment" ≠ "SimpleApp"),
      routeKeeps _ (by decide : "Deployment" ≠ "Ingress"),
      endpointKeeps _ (by decide : "Deployment" ≠ "Service"), stored]
  · obtain ⟨object, stored, isAligned⟩ := aligned_of_run lawful ordered₁ phases.ensureEndpoint
    refine ⟨object, ?_, isAligned⟩
    rw [statusKeeps _ (by decide : "Service" ≠ "SimpleApp"),
      routeKeeps _ (by decide : "Service" ≠ "Ingress"), stored]
  · cases same
    obtain ⟨object, stored, isAligned⟩ := aligned_of_run lawful ordered₂ phases.ensureRoute
    refine ⟨object, ?_, isAligned⟩
    rw [statusKeeps _ (by decide : "Ingress" ≠ "SimpleApp"), stored]

/-- The route of a declaration is stored and has a class. -/
def HasRoute (d : Declaration) (name : String) (s : Store) : Prop :=
  ∃ route, s.get? (.ofTexts .ingress d.namespaceName (d.name ++ "-ingress")) = some route ∧
    route.dig? ["spec", "ingressClassName"] = some (.str name)

theorem hasRoute_of_passFor {report : PassReport} (inOrder : s.InOrder)
    (ran : (passFor d (some name)).run answer s = (.ok report, after))
    (success : report.success = true) : HasRoute d name after := by
  have among : d.routeStep name ∈ d.steps (some name) :=
    Declaration.mem_steps_iff.2 (.inr (.inr ⟨name, rfl, rfl⟩))
  obtain ⟨object, stored, isAligned⟩ :=
    aligned_of_passFor inOrder ran success among (d.routeStep_lawful name)
  obtain ⟨value, leads, sameClass⟩ := (Option.any_eq_true ..).1 isAligned
  refine ⟨object, stored, ?_⟩
  rw [leads, (Json.isText_iff name).1 sameClass]

/-- A pass that is not told that its declaration is missing reads it. -/
theorem fetch_of_stored {found : Option Declaration} (inOrder : s.InOrder)
    (stored : s.get? key.place = some object)
    (told : ∀ fault, s.failure? .get .simpleApp = some fault → fault.isNotFound = false)
    (ran : (fetch key).run answer s = (.ok found, after)) :
    ∃ d, found = some d ∧ Declaration.ofResource object = .ok d := by
  cases found with
  | some d =>
      obtain ⟨-, -, ⟨own, stored', parses⟩, -⟩ := fetch_eq_some ran
      rw [stored] at stored'
      cases stored'
      exact ⟨d, rfl, parses⟩
  | none =>
      rw [run_fetch, Prod.mk.injEq, get_fst] at ran
      cases arranged : s.failure? .get .simpleApp with
      | some fault =>
          rw [arranged] at ran
          simp only [told fault arranged, Bool.false_eq_true, if_false, reduceCtorEq,
            false_and] at ran
      | none =>
          have usable_ : usable key.place = .ok key.place := (inOrder _ _ stored).usable
          rw [ObjectKey.place] at usable_ stored
          simp only [arranged, usable_, stored] at ran
          obtain ⟨d, -, impossible⟩ := except_map_eq_ok_iff.1 ran.1
          cases impossible

/-! ## Passes -/

/-- A pass for a key, with the class as it is configured by then and the failures that are
arranged for it. -/
structure RoutedPass where
  key : ObjectKey
  source : RouteClassSource
  failures : List ((Operation × String) × Fault)

namespace RoutedPass

def start (p : RoutedPass) (s : Store) : Store :=
  { s with failures := p.failures }

def run (p : RoutedPass) (s : Store) : Except Fault PassReport × Store :=
  (reconcile p.source.resolve p.key).run answer (p.start s)

def calls (p : RoutedPass) (s : Store) : List ClientCall :=
  (reconcile p.source.resolve p.key).queries answer (p.start s)

end RoutedPass

/-- The store after one pass after the other. -/
def afterPasses (passes : List RoutedPass) (s : Store) : Store :=
  passes.foldl (fun s pass => (pass.run s).2) s

theorem RoutedPass.inOrder (inOrder : s.InOrder) (pass : RoutedPass) :
    (pass.run s).2.InOrder := by
  have ordered : (pass.start s).InOrder := inOrder.of_objects rfl
  exact inOrder_of_run ordered (reconcile pass.source.resolve pass.key)

theorem inOrder_afterPasses (inOrder : s.InOrder) (passes : List RoutedPass) :
    (afterPasses passes s).InOrder := by
  induction passes generalizing s with
  | nil => exact inOrder
  | cons pass passes ih => exact ih (pass.inOrder inOrder)

theorem RoutedPass.routesKept (inOrder : s.InOrder) (pass : RoutedPass) :
    RoutesKept s (pass.run s).2 := by
  have started : RoutesKept s (pass.start s) := .of_get? fun _ _ => rfl
  exact started.trans (keepsRoutes_reconcile _ _ _ (inOrder.of_objects rfl))

theorem routesKept_afterPasses (inOrder : s.InOrder) (passes : List RoutedPass) :
    RoutesKept s (afterPasses passes s) := by
  induction passes generalizing s with
  | nil => exact .refl s
  | cons pass passes ih =>
      exact (pass.routesKept inOrder).trans (ih (pass.inOrder inOrder))

/-- A pass that succeeds for a stored declaration, and is not told that it is missing, goes through
its phases. -/
theorem RoutedPass.runs_phases {pass : RoutedPass} {report : PassReport} (inOrder : s.InOrder)
    (stored : s.get? pass.key.place = some object)
    (told : ∀ fault, (pass.start s).failure? .get .simpleApp = some fault →
      fault.isNotFound = false)
    (ran : (pass.run s).1 = .ok report) (success : report.success = true) :
    ∃ d read, Declaration.ofResource object = .ok d ∧ read.InOrder ∧
      (passFor d pass.source.resolve).run answer read = (.ok report, (pass.run s).2) := by
  have ordered : (pass.start s).InOrder := inOrder.of_objects rfl
  have ended : (reconcile pass.source.resolve pass.key).run answer (pass.start s) =
      (.ok report, (pass.run s).2) := Prod.ext ran rfl
  rw [reconcile_eq] at ended
  obtain ⟨found, read, fetched, passed⟩ := goes_on_of_success success ended
  obtain ⟨d, rfl, parses⟩ := fetch_of_stored ordered stored told fetched
  have ordered' := inOrder_of_run ordered (fetch pass.key)
  rw [fetched] at ordered'
  exact ⟨d, read, parses, ordered', passed⟩

theorem RoutedPass.hasRoute {pass : RoutedPass} {report : PassReport} (inOrder : s.InOrder)
    (inForce : pass.source.resolve = some name) (stored : s.get? pass.key.place = some object)
    (told : ∀ fault, (pass.start s).failure? .get .simpleApp = some fault →
      fault.isNotFound = false)
    (ran : (pass.run s).1 = .ok report) (success : report.success = true) :
    ∃ d, Declaration.ofResource object = .ok d ∧ HasRoute d name (pass.run s).2 := by
  obtain ⟨d, read, parses, ordered, passed⟩ := pass.runs_phases inOrder stored told ran success
  rw [inForce] at passed
  exact ⟨d, parses, hasRoute_of_passFor ordered passed success⟩

/-- Over passes for any keys, with any class configured for each and any failures arranged for
it: a pass without a class leaves routes alone, one that succeeds for a stored declaration
leaves its route with the class of that pass, and a stored route stays with everything but
class and version. -/
theorem routes_follow_the_class (reached : s.Reached) (earlier later : List RoutedPass)
    (pass : RoutedPass) :
    let before := afterPasses earlier s
    let after := (pass.run before).2
    ((∀ raw, pass.source.value = some raw → ∀ c ∈ raw.toList, Text.isSpace c = true) →
      (∀ call ∈ pass.calls before, call.kind.name ≠ "Ingress") ∧
        ∀ at_, at_.kind = "Ingress" → after.get? at_ = before.get? at_) ∧
    (∀ report raw, (pass.run before).1 = .ok report → report.success = true →
      (before.get? pass.key.place).isSome →
      (∀ fault, (pass.start before).failure? .get .simpleApp = some fault →
        fault.isNotFound = false) →
      pass.source.value = some raw → Text.trim raw ≠ "" →
      ∃ namespaceName name route, pass.key.name = .str name ∧
        pass.key.namespaceName.orElse (.str "default") = .str namespaceName ∧
        after.get? (.ofTexts .ingress namespaceName (name ++ "-ingress")) = some route ∧
        route.dig? ["spec", "ingressClassName"] = some (.str (Text.trim raw))) ∧
    RoutesKept before (afterPasses later after) := by
  intro before after
  have inOrder : before.InOrder := inOrder_afterPasses reached.inOrder earlier
  have ordered : (pass.start before).InOrder := inOrder.of_objects rfl
  refine ⟨fun blank => ?_, fun report raw ran success stored told set something => ?_, ?_⟩
  · have avoids : Avoids .ingress (reconcile pass.source.resolve pass.key) := by
      rw [resolve_of_blank blank]
      exact avoids_reconcile pass.key
    exact ⟨avoids.queries _, fun at_ isRoute => avoids.get?_run ordered isRoute⟩
  · obtain ⟨object, stored⟩ := Option.isSome_iff_exists.1 stored
    obtain ⟨d, parses, route, found, leads⟩ :=
      pass.hasRoute inOrder (resolve_of_value set something) stored told ran success
    obtain ⟨sameName, sameNamespace⟩ := key_of_stored (inOrder _ _ stored) parses
    exact ⟨d.namespaceName, d.name, route, sameName, sameNamespace, found, leads⟩
  · exact (pass.routesKept inOrder).trans
      (routesKept_afterPasses (pass.inOrder inOrder) later)

def routedPass (value : String) : RoutedPass := ⟨sampleKey, .fixed (some value), []⟩

/-- The class comes, and is blank in the pass after that. -/
theorem sample_route_follows_the_class : sampleStore.Reached ∧
    ∃ route kept, ((routedPass " nginx ").run sampleStore).2.get?
        (.ofTexts .ingress "default" "web-ingress") = some route ∧
      route.dig? ["spec", "ingressClassName"] = some (.str "nginx") ∧
      ((routedPass "  ").run ((routedPass " nginx ").run sampleStore).2).2.get?
        (.ofTexts .ingress "default" "web-ingress") = some kept ∧ RouteKept route kept := by
  refine ⟨sampleStore_reached, ?_⟩
  obtain ⟨-, routed, -⟩ := routes_follow_the_class sampleStore_reached [] [] (routedPass " nginx ")
  obtain ⟨-, -, keeps⟩ :=
    routes_follow_the_class sampleStore_reached [routedPass " nginx "] [] (routedPass "  ")
  have trimmed : Text.trim " nginx " = "nginx" := by decide +kernel
  have inForce : (routedPass " nginx ").source.resolve = some "nginx" := by
    rw [resolve_of_value rfl (by rw [trimmed]; decide), trimmed]
  obtain ⟨report, ran, success⟩ : ∃ report,
      ((routedPass " nginx ").run sampleStore).1 = .ok report ∧ report.success = true := by
    rw [RoutedPass.run, inForce]
    exact ⟨_, rfl, rfl⟩
  obtain ⟨namespaceName, name, route, sameName, sameNamespace, found, leads⟩ :=
    routed report " nginx " ran success rfl (fun _ told => nomatch told) rfl
      (by rw [trimmed]; decide)
  cases sameName
  cases sameNamespace
  rw [trimmed] at leads
  obtain ⟨kept, stays, unchanged⟩ := keeps _ route rfl found
  exact ⟨route, kept, found, leads, stays, unchanged⟩

/-- A pass that is told that its declaration is missing succeeds and leaves no route. -/
theorem missing_declaration_gets_no_route :
    let pass : RoutedPass := ⟨sampleKey, .fixed (some "nginx"),
      [((.get, "SimpleApp"), .api (.missing "no such"))]⟩
    sampleStore.Reached ∧ (sampleStore.get? pass.key.place).isSome ∧
      pass.source.resolve = some "nginx" ∧
      (∃ report, (pass.run sampleStore).1 = .ok report ∧ report.success = true) ∧
      (pass.run sampleStore).2.get? (.ofTexts .ingress "default" "web-ingress") = none := by
  intro pass
  have inForce : pass.source.resolve = some "nginx" := by rfl
  refine ⟨sampleStore_reached, rfl, inForce, ?_⟩
  rw [RoutedPass.run, inForce]
  exact ⟨⟨_, rfl, rfl⟩, rfl⟩

end AppOperator
