import AppOperator.Proofs.Cluster.Confinement
import AppOperator.Proofs.Reconcile.Convergence
import AppOperator.Proofs.Reconcile.Positions

/-!
# Passes for distinct keys

A pass is confined to the declaration of its key and to the workload, the endpoint and the
route that go by it.  The places of distinct keys are apart, also where an application is
called like the route of another one, so that passes for them may take turns in any order.
-/

set_option autoImplicit false

namespace AppOperator

open Dialogue (Interleaved)
open Store

variable {s after : Store} {d : Declaration} {key other : ObjectKey} {object : Json}
  {routeClass : Option String} {at_ : ObjectPlace}

/-! ## The places of a key -/

/-- The objects that go by a key of texts. -/
def ObjectKey.dependents (key : ObjectKey) : List ObjectPlace :=
  match key.namespaceName, key.name with
  | .str namespaceName, .str name =>
      [.ofTexts .deployment namespaceName name, .ofTexts .service namespaceName name,
        .ofTexts .ingress namespaceName (name ++ "-ingress")]
  | _, _ => []

/-- Where a pass for a key reads and writes. -/
def ObjectKey.places (key : ObjectKey) : List ObjectPlace :=
  key.dependents ++ [key.place]

theorem mem_dependents_iff {place : ObjectPlace} : place ∈ key.dependents ↔
    ∃ namespaceName name, key = .ofTexts namespaceName name ∧
      (place = .ofTexts .deployment namespaceName name ∨
        place = .ofTexts .service namespaceName name ∨
        place = .ofTexts .ingress namespaceName (name ++ "-ingress")) := by
  constructor
  · intro among
    obtain ⟨inNamespace, named⟩ := key
    unfold ObjectKey.dependents at among
    split at among
    · next namespaceName name isText isText' =>
        cases isText
        cases isText'
        simp only [List.mem_cons, List.not_mem_nil, or_false] at among
        exact ⟨namespaceName, name, rfl, among⟩
    · cases among
  · rintro ⟨namespaceName, name, rfl, among⟩
    simp only [ObjectKey.dependents, ObjectKey.ofTexts, List.mem_cons, List.not_mem_nil, or_false]
    exact among

/-- Objects of two keys are at one place only if the keys agree. -/
theorem beq_of_dependents {place place' : ObjectPlace} (among : place ∈ key.dependents)
    (among' : place' ∈ other.dependents) (agree : (place == place') = true) :
    (key == other) = true := by
  obtain ⟨namespaceName, name, rfl, one⟩ := mem_dependents_iff.1 among
  obtain ⟨namespaceName', name', rfl, another⟩ := mem_dependents_iff.1 among'
  obtain ⟨sameKind, sameNamespace, sameName⟩ := (ObjectPlace.beq_iff _ _).1 agree
  rw [ObjectKey.beq_iff]
  rcases one with rfl | rfl | rfl <;> rcases another with rfl | rfl | rfl
  · exact ⟨sameNamespace, sameName⟩
  · exact absurd sameKind (by decide : "Deployment" ≠ "Service")
  · exact absurd sameKind (by decide : "Deployment" ≠ "Ingress")
  · exact absurd sameKind (by decide : "Service" ≠ "Deployment")
  · exact ⟨sameNamespace, sameName⟩
  · exact absurd sameKind (by decide : "Service" ≠ "Ingress")
  · exact absurd sameKind (by decide : "Ingress" ≠ "Deployment")
  · exact absurd sameKind (by decide : "Ingress" ≠ "Service")
  · -- routes of one name are routes of one application
    have route : Json.str (name ++ "-ingress") = .str (name' ++ "-ingress") :=
      (Json.keyForm_eq_str_iff _).1 sameName
    obtain rfl := (String.append_left_inj "-ingress").1 (Json.str.inj route)
    exact ⟨sameNamespace, rfl⟩

theorem kind_of_dependents {place : ObjectPlace} (among : place ∈ key.dependents) :
    place.kind ≠ ResourceKind.simpleApp.name := by
  obtain ⟨namespaceName, name, -, among⟩ := mem_dependents_iff.1 among
  rcases among with rfl | rfl | rfl
  · exact (by decide : "Deployment" ≠ "SimpleApp")
  · exact (by decide : "Service" ≠ "SimpleApp")
  · exact (by decide : "Ingress" ≠ "SimpleApp")

theorem outside_of_kind {places : List ObjectPlace}
    (kinds : ∀ kind ∈ places.map (·.kind), kind ≠ at_.kind) : Outside places at_ := by
  intro place among
  exact ObjectPlace.beq_false_of_kind (kinds place.kind (List.mem_map_of_mem among))

theorem places_apart (distinct : (key == other) = false) :
    ∀ place ∈ key.places, Outside other.places place := by
  intro place among place' among'
  rw [Bool.eq_false_iff]
  intro agree
  have sameKind := ((ObjectPlace.beq_iff place' place).1 agree).1
  have agree' : (place == place') = true := by rw [BEq.comm, agree]
  rw [Bool.eq_false_iff] at distinct
  rcases List.mem_append.1 among with among | among <;>
    rcases List.mem_append.1 among' with among' | among'
  · exact distinct (beq_of_dependents among among' agree')
  · rw [List.mem_singleton.1 among'] at sameKind
    exact kind_of_dependents among sameKind.symm
  · rw [List.mem_singleton.1 among] at sameKind
    exact kind_of_dependents among' sameKind
  · rw [List.mem_singleton.1 among, List.mem_singleton.1 among'] at agree'
    exact distinct ((ObjectKey.beq_iff _ _).2 ((ObjectPlace.beq_iff _ _).1 agree').2)

/-- The places of a key with a namespace are those of its declaration. -/
theorem places_of_stored (named : key.namespaceName.holds = true) (kept : KeptAt key.place object)
    (parses : Declaration.ofResource object = .ok d) : key.places = [d.workloadStep.place,
      d.endpointStep.place, .ofTexts .ingress d.namespaceName d.routeName, key.place] := by
  obtain ⟨sameName, sameNamespace⟩ := key_of_stored kept parses
  rw [orElse_of_holds named] at sameNamespace
  simp only [ObjectKey.places, ObjectKey.dependents, sameName, sameNamespace]
  rfl

/-! ## Steps -/

/-- What comes after a step is confined to the rest of some places, which the place of the
step is none of, and depends on the object of the step in nothing but its fields. -/
structure GoesOn (step : EnsureStep) (places rest : List ObjectPlace)
    (goesOn : Ensured → ClientM (Except Fault PassReport)) : Prop where
  among : step.place ∈ places
  fewer : rest ⊆ places
  last : Outside rest step.place
  dependent : step.place.kind ≠ ResourceKind.simpleApp.name
  blind : ∀ outcome changed x y, KeptAt step.place x → KeptAt step.place y →
    (∀ name, name ≠ "metadata" → x.field? name = y.field? name) →
      goesOn ⟨outcome, some x, changed⟩ = goesOn ⟨outcome, some y, changed⟩
  later : ∀ result, Confined rest (goesOn result)

section Steps

variable {step : EnsureStep} {aligned : Json → Bool} {places rest : List ObjectPlace}
  {outcomes : Outcomes} {goesOn : Ensured → ClientM (Except Fault PassReport)}

theorem confined_orStop {α : Type} {phase : Phase}
    {next : α → ClientM (Except Fault PassReport)} (later : ∀ value, Confined rest (next value))
    (result : Except Fault α) : Confined rest (orStop phase outcomes next result) := by
  cases result with
  | error fault => exact .done _ _
  | ok value => exact later value

theorem GoesOn.stops (after : GoesOn step places rest goesOn) (phase : Phase)
    (result : Except Fault Ensured) : Confined places (orStop phase outcomes goesOn result) :=
  confined_orStop (fun value => (after.later value).mono after.fewer) result

theorem confined_write (after : GoesOn step places rest goesOn) {call : ClientCall}
    (written : writtenPlace? call = some step.place) (outcome : Outcome) (default : Json)
    (changed : List String) :
    Confined places (.ask call fun reply => orStop step.phase outcomes goesOn
      (reply.map fun x => ⟨outcome, some (x.orElse default), changed⟩)) := by
  refine .write written ⟨_, after.among, BEq.rfl⟩ after.fewer after.last
    (fun isDeclaration => absurd isDeclaration after.dependent) ?_ ?_
  · intro x y kept kept' beside
    have first := kept.orElse_eq default
    have second := kept'.orElse_eq default
    simp only [Except.map, orStop, first, second]
    exact after.blind outcome changed x y kept kept' beside
  · intro reply _
    exact confined_orStop after.later _

theorem confined_align (lawful : step.Lawful aligned) (after : GoesOn step places rest goesOn)
    {live : Json} (kept : KeptAt step.place live) :
    Confined places ((step.align live).bind (orStop step.phase outcomes goesOn)) := by
  unfold EnsureStep.align
  split
  · exact after.stops _ _
  · exact after.stops _ _
  · split
    · exact after.stops _ _
    · next edited edit =>
        obtain ⟨-, beside⟩ := lawful.applied live edited edit
        have stated : statedPlace step.kind edited = .ok step.place :=
          statedPlace_congr (beside "metadata" (by decide)) kept.statedPlace_ofTexts
        have written : writtenPlace? (.update step.kind edited) = some step.place := by
          rw [writtenPlace?, stated]
          rfl
        exact confined_write after written _ _ _

theorem confined_ensure (lawful : step.Lawful aligned) (after : GoesOn step places rest goesOn) :
    Confined places (step.ensure.bind (orStop step.phase outcomes goesOn)) := by
  rw [EnsureStep.ensure_eq]
  refine .read after.among ?_
  intro reply from_
  cases reply with
  | error fault =>
      cases missing : fault.isNotFound with
      | true =>
          have written : writtenPlace? (.create step.kind step.desired) = some step.place := by
            rw [writtenPlace?, lawful.stated]
            rfl
          rw [EnsureStep.afterRead_of_missing missing]
          exact confined_write after written _ _ _
      | false =>
          rw [EnsureStep.afterRead_of_fault missing]
          exact after.stops _ _
  | ok live =>
      rw [EnsureStep.afterRead_of_kept (from_ live rfl)]
      exact confined_align lawful after (from_ live rfl)

end Steps

/-! ## The status -/

/-- The ready count of a stored object is that of its status. -/
theorem readyReplicas_of_kept (kept : KeptAt at_ object) : readyReplicas (some object) = (do
    let status := ((object.field? "status").getD .null).orElse (.obj [])
    return (← status.fieldOr "readyReplicas" .null).orElse (.int 0)) := by
  obtain ⟨fields, metadata, rfl, has, -⟩ := kept.states
  cases fields with
  | nil => cases has
  | cons field rest => rfl

/-- So the status phase does not depend on the metadata of the workload. -/
theorem reconcileStatus_congr {x y : Json} (kept : KeptAt at_ x) (kept' : KeptAt at_ y)
    (same : x.field? "status" = y.field? "status") :
    reconcileStatus d (some x) = reconcileStatus d (some y) := by
  unfold reconcileStatus
  rw [readyReplicas_of_kept kept, readyReplicas_of_kept kept', same]

/-- The status is written where the declaration is kept. -/
theorem statedPlace_of_marks {ready sent : Json} (kept : KeptAt key.place object)
    (parses : Declaration.ofResource object = .ok d) (marks : d.withReadyReplicas ready = .ok sent) :
    ∃ at_, statedPlace .simpleApp sent = .ok at_ ∧ (at_ == key.place) = true := by
  obtain ⟨fields, metadata, rfl, has, -⟩ := kept.states
  have reads := (Declaration.ofResource_eq_ok_iff has).1 parses
  obtain ⟨own, -, marks'⟩ := Declaration.withReadyReplicas_eq reads has ready
  rw [marks] at marks'
  cases marks'
  obtain ⟨at_, stated, agree⟩ := kept.statedPlace_eq (@rfl _ ResourceKind.simpleApp.name)
  have beside : (Json.obj (Fields.set fields "status"
      (.obj (Fields.set own "readyReplicas" ready)))).field? "metadata" =
        (Json.obj fields).field? "metadata" := Fields.get?_set_of_ne fields _ (by decide)
  exact ⟨at_, statedPlace_congr beside stated, agree⟩

theorem confined_reconcileStatus (kept : KeptAt key.place object)
    (parses : Declaration.ofResource object = .ok d) (workload : Option Json) (outcomes : Outcomes)
    (report : Bool → PassReport) : Confined [key.place] ((reconcileStatus d workload).bind
      (orStop .reconcileStatus outcomes fun written => pure (.ok (report written)))) := by
  rcases reconcileStatus_cases d workload with ⟨result, same⟩ | ⟨ready, sent, marks, same⟩
  · rw [same]
    exact confined_orStop (fun _ => .done _ _) result
  · obtain ⟨at_, stated, agree⟩ := statedPlace_of_marks kept parses marks
    have written : writtenPlace? (.updateStatus .simpleApp sent) = some at_ := by
      rw [writtenPlace?, stated]
      rfl
    have among : ∃ place ∈ [key.place], (place == at_) = true :=
      ⟨key.place, List.mem_singleton_self _, by rw [BEq.comm, agree]⟩
    have last : Outside [] at_ := fun _ impossible => by cases impossible
    rw [same]
    refine .write written among (List.nil_subset _) last (fun _ => rfl) (fun _ _ _ _ _ => rfl) ?_
    intro reply _
    exact confined_orStop (fun _ => .done _ _) _

/-! ## Whole passes -/

theorem confined_passFor (named : key.namespaceName.holds = true) (kept : KeptAt key.place object)
    (parses : Declaration.ofResource object = .ok d) (routeClass : Option String) :
    Confined key.places (passFor d routeClass) := by
  rw [places_of_stored named kept parses, passFor_eq]
  have status := confined_reconcileStatus kept parses
  refine confined_ensure d.workloadStep_lawful {
    among := List.mem_cons_self ..
    fewer := List.subset_cons_self ..
    last := outside_of_kind (by decide : ∀ kind ∈ ["Service", "Ingress", "SimpleApp"],
      kind ≠ "Deployment")
    dependent := (by decide : "Deployment" ≠ "SimpleApp")
    blind := ?_
    later := ?_ }
  · intro outcome changed x y kept kept' beside
    dsimp only
    rw [reconcileStatus_congr kept kept' (beside "status" (by decide))]
    rfl
  · intro workload
    refine confined_ensure d.endpointStep_lawful {
      among := List.mem_cons_self ..
      fewer := List.subset_cons_self ..
      last := outside_of_kind (by decide : ∀ kind ∈ ["Ingress", "SimpleApp"], kind ≠ "Service")
      dependent := (by decide : "Service" ≠ "SimpleApp")
      blind := fun _ _ _ _ _ _ _ => rfl
      later := ?_ }
    intro endpoint
    cases routeClass with
    | none => exact (status _ _ _).mono (List.subset_cons_self ..)
    | some name =>
        exact confined_ensure (d.routeStep_lawful name) {
          among := List.mem_cons_self ..
          fewer := List.subset_cons_self ..
          last := outside_of_kind (by decide : ∀ kind ∈ ["SimpleApp"], kind ≠ "Ingress")
          dependent := (by decide : "Ingress" ≠ "SimpleApp")
          blind := fun _ _ _ _ _ _ _ => rfl
          later := fun route => status _ _ _ }

/-- A pass reads and writes at the places of its key alone. -/
theorem confined_reconcile (named : key.namespaceName.holds = true)
    (routeClass : Option String) : Confined key.places (reconcile routeClass key) := by
  rw [reconcile_eq]
  refine .read (List.mem_append_right _ (List.mem_singleton_self _)) ?_
  intro reply from_
  cases reply with
  | error fault =>
      cases missing : fault.isNotFound with
      | true =>
          simp only [missing, if_true]
          exact .done _ _
      | false =>
          simp only [missing, Bool.false_eq_true, if_false]
          exact .done _ _
  | ok object =>
      cases parses : Declaration.ofResource object with
      | error fault =>
          simp only [parses]
          exact .done _ _
      | ok d =>
          simp only [parses]
          exact confined_passFor named (from_ object rfl) parses routeClass

/-- Passes for distinct keys with namespaces may take turns in any order: each of them has the
result that it has when one runs after the other, and the objects are the same up to what the
store assigns.  A pass writes at the places of its key alone, of its declaration nothing but the
status, and it takes nothing away. -/
theorem passes_are_independent {routeClass' : Option String} {x y : Except Fault PassReport}
    (reached : s.Reached) (distinct : (key == other) = false)
    (named : key.namespaceName.holds = true) (named' : other.namespaceName.holds = true)
    (turns : Interleaved answer s (reconcile routeClass key) (reconcile routeClass' other) x y
      after) :
    SameInTurn s (reconcile routeClass key) (reconcile routeClass' other) x y after ∧
      SameInTurn s (reconcile routeClass' other) (reconcile routeClass key) y x after ∧
      Spares (key.places ++ other.places) s after ∧
      Spares key.places s ((reconcile routeClass key).run answer s).2 ∧
      ∀ call ∈ (reconcile routeClass key).queries answer s,
        call.operation = .get ∨ WritesAt key.places call := by
  have inOrder := reached.inOrder
  have confined := confined_reconcile named routeClass
  have confined' := confined_reconcile named' routeClass'
  have distinct' : (other == key) = false := by rw [BEq.comm, distinct]
  refine ⟨sameInTurn_of_confined turns confined confined' (places_apart distinct) inOrder,
    sameInTurn_of_confined turns.symm confined' confined (places_apart distinct') inOrder, ?_,
    confined.spares inOrder, confined.calls inOrder⟩
  exact spares_of_interleaved turns confined confined' inOrder (List.subset_append_left _ _)
    (List.subset_append_right _ _)

/-- A cluster with an application that is called like the route of another one. -/
def neighbouringStore : Store :=
  (sampleStore.seed .simpleApp (NewDeclaration.render ⟨.str "web-ingress", .str "nginx:2",
    .int 8080, .int 1, .int 80, .str "default"⟩)).2

def neighbouringKey : ObjectKey := .ofTexts "default" "web-ingress"

/-- The passes for both take turns, call for call. -/
theorem neighbouring_passes_are_independent : ∃ x y after,
    Interleaved answer neighbouringStore (reconcile (some "nginx") sampleKey)
      (reconcile (some "traefik") neighbouringKey) x y after ∧
    x = .ok (.succeeded [("Deployment", .updated), ("Service", .created), ("Ingress", .created)]
      true) ∧
    y = .ok (.succeeded [("Deployment", .created), ("Service", .created), ("Ingress", .created)]
      false) ∧
    SameInTurn neighbouringStore (reconcile (some "nginx") sampleKey)
      (reconcile (some "traefik") neighbouringKey) x y after ∧
    SameInTurn neighbouringStore (reconcile (some "traefik") neighbouringKey)
      (reconcile (some "nginx") sampleKey) y x after := by
  have reached : neighbouringStore.Reached := .seeded sampleStore_reached _ _
  have distinct : (sampleKey == neighbouringKey) = false := by decide
  have turns := Dialogue.interleaved_weave answer
    [true, false, true, false, true, false, true, false, true, false, true, false, true, false]
    neighbouringStore (reconcile (some "nginx") sampleKey)
    (reconcile (some "traefik") neighbouringKey)
  obtain ⟨first, second, -⟩ := passes_are_independent reached distinct rfl rfl turns
  exact ⟨_, _, _, turns, rfl, rfl, first, second⟩

end AppOperator
