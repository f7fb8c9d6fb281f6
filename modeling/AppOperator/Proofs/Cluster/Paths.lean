import AppOperator.Proofs.Cluster.Refusals
import AppOperator.Proofs.Reconcile.Upkeep

/-!
# Paths and what they identify

A path puts a slash in front of every segment, so its pieces between the slashes are those of its
segments.  What a request can be addressed to (`Target`) is found again in these pieces: the root of
a kind is never the beginning of another one's, and behind the root there is a namespace exactly if
the next piece is no plural.  A dependent of a declaration is created at a path that leads, with a
slash and its name, to where it is read and replaced.
-/

set_option autoImplicit false

namespace AppOperator

namespace ResourceKind

/-! ## Segments -/

variable {text : String}

theorem part_of_ne_empty (some_ : text ≠ "") : part (some text) = some text := by
  rw [part, Option.filter_some, if_pos (by simpa using some_)]

theorem part_part (text : Option String) : part (part text) = part text := by
  rw [part, part, Option.filter_filter]
  simp only [Bool.and_self]

theorem partOf_str (s : String) : partOf (.str s) = part (some s) := by
  by_cases empty : s = "" <;> simp [partOf, part, Option.filter, Json.holds, Json.spoken, empty]

/-- The segments that paths of a kind begin with. -/
def root (kind : ResourceKind) : List String :=
  if kind.apiVersion.contains '/' then ["apis", kind.apiVersion] else ["api", kind.apiVersion]

/-- The segments that lead into a namespace. -/
def placeSegments (namespaceName : Option String) : List String :=
  match part namespaceName with
  | some namespaceName => ["namespaces", namespaceName]
  | none => []

/-- The segments that lead from the objects of a kind to one of them. -/
def objectSegments (name subresource : Option String) : List String :=
  match part name with
  | some name => name :: (part subresource).toList
  | none => []

theorem segments_eq (kind : ResourceKind) (namespaceName name subresource : Option String) :
    kind.segments namespaceName name subresource =
      kind.root ++ placeSegments namespaceName ++ [kind.plural] ++
        objectSegments name subresource := rfl

theorem path_part_namespace (kind : ResourceKind) (namespaceName name subresource : Option String) :
    kind.path (part namespaceName) name subresource = kind.path namespaceName name subresource := by
  rw [path, path, segments_eq, segments_eq, placeSegments, placeSegments, part_part]

theorem path_part_name (kind : ResourceKind) (namespaceName name subresource : Option String) :
    kind.path namespaceName (part name) subresource = kind.path namespaceName name subresource := by
  rw [path, path, segments_eq, segments_eq, objectSegments, objectSegments, part_part]

/-- An object is behind the collection that it is in. -/
theorem path_some (kind : ResourceKind) (namespaceName : Option String) (some_ : text ≠ "") :
    kind.path namespaceName (some text) none =
      kind.path namespaceName none none ++ "/" ++ text := by
  have object : objectSegments (some text) none = [text] := by
    rw [objectSegments, part_of_ne_empty some_]
    rfl
  have collection : objectSegments none none = [] := rfl
  rw [path, path, segments_eq, segments_eq, object, collection, List.append_nil, List.map_append,
    String.join_append, List.map_singleton, String.join_cons, String.join_nil, String.append_empty,
    String.append_assoc]

/-! ## Pieces -/

/-- The pieces of a text between its slashes. -/
def pieces (text : String) : List (List Char) :=
  text.toList.splitOn '/'

theorem pieces_of_noSlash (noSlash : '/' ∉ text.toList) : pieces text = [text.toList] :=
  List.splitOn_eq_singleton noSlash

/-- Segments that each come behind a slash have the pieces that they have one by one. -/
theorem splitOn_flatMap (front : List Char) (segments : List String) :
    (front ++ segments.flatMap fun segment => '/' :: segment.toList).splitOn '/' =
      front.splitOn '/' ++ segments.flatMap pieces := by
  induction segments generalizing front with
  | nil => rw [List.flatMap_nil, List.flatMap_nil, List.append_nil, List.append_nil]
  | cons segment rest ih =>
      rw [List.flatMap_cons, List.flatMap_cons, List.cons_append, List.splitOn_append_cons_self, ih]
      rfl

/-- A path has an empty piece in front of its first slash, and then those of its segments. -/
theorem pieces_path (kind : ResourceKind) (namespaceName name subresource : Option String) :
    pieces (kind.path namespaceName name subresource) =
      [] :: (kind.segments namespaceName name subresource).flatMap pieces := by
  have chars : (kind.path namespaceName name subresource).toList =
      (kind.segments namespaceName name subresource).flatMap fun segment =>
        '/' :: segment.toList := by
    rw [path, String.toList_join, List.flatMap_map]
    simp only [String.toList_append]
    rfl
  rw [pieces, chars]
  exact splitOn_flatMap [] _

/-- The root of a kind is not the beginning of another one's. -/
theorem eq_of_pieces_root_prefix : ∀ kind ∈ watched, ∀ other ∈ watched,
    kind.root.flatMap pieces <+: other.root.flatMap pieces → kind = other := by
  simp only [root, String.contains_char_eq]
  decide +kernel

theorem plural_plain : ∀ kind ∈ watched,
    '/' ∉ kind.plural.toList ∧ kind.plural.toList ≠ "namespaces".toList := by
  decide +kernel

end ResourceKind

/-! ## What paths identify -/

/-- A text that can stand between two slashes. -/
@[ext]
structure Segment where
  text : String
  nonempty : text ≠ ""
  noSlash : '/' ∉ text.toList

namespace Segment

open ResourceKind (part pieces)

theorem part_map (segment? : Option Segment) : part (segment?.map text) = segment?.map text := by
  cases segment? with
  | none => rfl
  | some segment => exact ResourceKind.part_of_ne_empty segment.nonempty

theorem pieces_text (segment : Segment) : pieces segment.text = [segment.text.toList] :=
  ResourceKind.pieces_of_noSlash segment.noSlash

theorem toList_injective : Function.Injective fun segment : Segment => segment.text.toList :=
  fun _ _ same => Segment.ext (String.toList_inj.1 same)

end Segment

/-- What a request can be addressed to: the objects of a kind, in one namespace or in all of them,
or one of the objects, or a subresource of it. -/
@[ext]
structure Target where
  kind : ResourceKind
  namespaceName : Option Segment
  name : Option Segment
  subresource : Option Segment
  known : kind ∈ ResourceKind.watched
  named : name = none → subresource = none

namespace Target

open ResourceKind (pieces placeSegments objectSegments)

variable {a b t : Target}

def path (t : Target) : String :=
  t.kind.path (t.namespaceName.map Segment.text) (t.name.map Segment.text)
    (t.subresource.map Segment.text)

/-- The pieces between the root and the plural. -/
def place (t : Target) : List (List Char) :=
  match t.namespaceName with
  | some namespaceName => ["namespaces".toList, namespaceName.text.toList]
  | none => []

/-- What comes behind the plural. -/
def within (t : Target) : List Segment :=
  t.name.toList ++ t.subresource.toList

def object (t : Target) : List (List Char) :=
  t.within.map fun segment => segment.text.toList

/-- The name is the first thing behind the plural, and the subresource is the next one. -/
theorem within_reads_back (t : Target) :
    t.within.head? = t.name ∧ t.within.tail.head? = t.subresource := by
  rw [within]
  cases hasName : t.name with
  | none =>
      rw [t.named hasName]
      exact ⟨rfl, rfl⟩
  | some name => exact ⟨rfl, Option.head?_toList⟩

theorem pieces_place (t : Target) :
    (placeSegments (t.namespaceName.map Segment.text)).flatMap pieces = t.place := by
  rw [placeSegments, Segment.part_map, place]
  cases t.namespaceName with
  | none => rfl
  | some namespaceName =>
      have word : pieces "namespaces" = ["namespaces".toList] :=
        ResourceKind.pieces_of_noSlash (by decide)
      simp only [Option.map_some, List.flatMap_cons, List.flatMap_nil, word,
        namespaceName.pieces_text, List.cons_append, List.nil_append]

theorem pieces_object (t : Target) :
    (objectSegments (t.name.map Segment.text) (t.subresource.map Segment.text)).flatMap pieces =
      t.object := by
  rw [objectSegments, Segment.part_map, Segment.part_map, object, within]
  cases hasName : t.name with
  | none =>
      rw [t.named hasName]
      rfl
  | some name =>
      cases t.subresource with
      | none => simp [name.pieces_text]
      | some subresource => simp [name.pieces_text, subresource.pieces_text]

/-- The pieces of the path of a target. -/
theorem pieces_path (t : Target) : pieces t.path =
    [] :: (t.kind.root.flatMap pieces ++ (t.place ++ t.kind.plural.toList :: t.object)) := by
  have plural : pieces t.kind.plural = [t.kind.plural.toList] :=
    ResourceKind.pieces_of_noSlash (ResourceKind.plural_plain t.kind t.known).1
  simp only [path, ResourceKind.pieces_path, ResourceKind.segments_eq, List.flatMap_append,
    pieces_place, List.append_assoc, List.singleton_append, List.flatMap_cons, plural,
    pieces_object]

/-- What a root is followed by leaves no doubt about the kind. -/
theorem kind_eq_of_append {front front' : List (List Char)}
    (same : a.kind.root.flatMap pieces ++ front = b.kind.root.flatMap pieces ++ front') :
    a.kind = b.kind := by
  -- both roots begin the same list, so one of them begins the other
  have first : a.kind.root.flatMap pieces <+: b.kind.root.flatMap pieces ++ front' := ⟨front, same⟩
  have second := List.prefix_append (b.kind.root.flatMap pieces) front'
  rcases List.prefix_or_prefix_of_prefix first second with shorter | longer
  · exact ResourceKind.eq_of_pieces_root_prefix _ a.known _ b.known shorter
  · exact (ResourceKind.eq_of_pieces_root_prefix _ b.known _ a.known longer).symm

/-- A plural is not the word for namespaces, so it tells where a namespace is left out. -/
theorem namespaceName_eq_of_append {plural : List Char} {rest rest' : List (List Char)}
    (notWord : plural ≠ "namespaces".toList)
    (same : a.place ++ plural :: rest = b.place ++ plural :: rest') :
    a.namespaceName = b.namespaceName ∧ rest = rest' := by
  unfold place at same
  cases first : a.namespaceName with
  | none =>
      cases second : b.namespaceName with
      | none =>
          rw [first, second] at same
          exact ⟨rfl, List.tail_eq_of_cons_eq same⟩
      | some other =>
          -- the plural of the one stands where the other has the word
          rw [first, second] at same
          exact absurd (List.head_eq_of_cons_eq same) notWord
  | some namespaceName =>
      cases second : b.namespaceName with
      | none =>
          rw [first, second] at same
          exact absurd (List.head_eq_of_cons_eq same).symm notWord
      | some other =>
          rw [first, second] at same
          simp only [List.cons_append, List.nil_append, List.cons.injEq, true_and] at same
          exact ⟨congrArg some (Segment.toList_injective same.1), same.2⟩

theorem name_eq_of_object (same : a.object = b.object) :
    a.name = b.name ∧ a.subresource = b.subresource := by
  have sameWithin : a.within = b.within := (List.map_inj_right Segment.toList_injective).1 same
  obtain ⟨name, subresource⟩ := a.within_reads_back
  rw [sameWithin] at name subresource
  exact ⟨name.symm.trans b.within_reads_back.1, subresource.symm.trans b.within_reads_back.2⟩

/-- Targets that differ have different paths. -/
theorem path_injective : Function.Injective path := by
  intro a b same
  have samePieces : pieces a.path = pieces b.path := congrArg pieces same
  rw [pieces_path, pieces_path, List.cons.injEq] at samePieces
  have kind := kind_eq_of_append samePieces.2
  rw [kind, List.append_cancel_left_eq] at samePieces
  have notWord := (ResourceKind.plural_plain b.kind b.known).2
  obtain ⟨namespaceName, objects⟩ := namespaceName_eq_of_append notWord samePieces.2
  obtain ⟨name, subresource⟩ := name_eq_of_object objects
  exact Target.ext kind namespaceName name subresource

end Target

/-! ## Where dependents are -/

/-- An object states the namespace and the name that a step is about. -/
structure EnsureStep.Names (step : EnsureStep) (object : Json) : Prop where
  namespaceName : object.dig? ["metadata", "namespace"] = some (.str step.namespaceName)
  name : object.dig? ["metadata", "name"] = some (.str step.objectName)

variable {d : Declaration} {routeClass : Option String} {step : EnsureStep}
  {object live edited : Json}

namespace EnsureStep

theorem Names.exists_metadata (names : step.Names object) : ∃ metadata,
    object.entry "metadata" = .ok (.obj metadata) ∧
      Fields.get? metadata "namespace" = some (.str step.namespaceName) ∧
      Fields.get? metadata "name" = some (.str step.objectName) := by
  obtain ⟨fields, inner, rfl, has, leads⟩ := Json.dig?_cons_eq_some_iff.1 names.namespaceName
  have isName := names.name
  rw [Json.dig?_of_field has, Json.dig?_singleton] at isName
  obtain ⟨metadata, rfl, isName⟩ := Json.field?_eq_some_iff.1 isName
  rw [Json.dig?_singleton] at leads
  exact ⟨metadata, Json.entry_obj_eq_ok_iff.2 has, leads, isName⟩

theorem Names.collectionPath (names : step.Names object) :
    RestClient.collectionPath step.kind object =
      .ok (step.kind.path (some step.namespaceName) none none) := by
  obtain ⟨metadata, isMetadata, isNamespace, -⟩ := names.exists_metadata
  simp only [RestClient.collectionPath, isMetadata, bind, Except.bind, Json.fieldOr_obj,
    isNamespace, Option.getD_some, ResourceKind.partOf_str, ResourceKind.path_part_namespace, pure,
    Except.pure]

theorem Names.objectPath (names : step.Names object) (subresource : Option String) :
    RestClient.objectPath step.kind object subresource =
      .ok (step.kind.path (some step.namespaceName) (some step.objectName) subresource) := by
  obtain ⟨metadata, isMetadata, isNamespace, isName⟩ := names.exists_metadata
  simp only [RestClient.objectPath, isMetadata, bind, Except.bind, Json.fieldOr_obj, isNamespace,
    Option.getD_some, Json.entry_obj_eq_ok_iff.2 isName, ResourceKind.partOf_str,
    ResourceKind.path_part_namespace, ResourceKind.path_part_name, pure, Except.pure]

theorem names_desired (among : step ∈ d.steps routeClass) : step.Names step.desired := by
  rcases Declaration.mem_steps_iff.1 among with rfl | rfl | ⟨name, -, rfl⟩ <;> exact ⟨rfl, rfl⟩

/-- What a step writes into a live object leaves the identity of the object alone. -/
theorem Names.applyDiff (names : step.Names live) (among : step ∈ d.steps routeClass)
    (edit : step.applyDiff live = ⟨edited, none⟩) : step.Names edited := by
  have beside := (upkept_of_applyDiff among edit).beside
  exact ⟨(beside _ (by decide)).trans names.namespaceName,
    (beside _ (by decide)).trans names.name⟩

theorem objectName_ne_empty (among : step ∈ d.steps routeClass) (named : d.name ≠ "") :
    step.objectName ≠ "" := by
  rcases Declaration.mem_steps_iff.1 among with rfl | rfl | ⟨name, -, rfl⟩
  · exact named
  · exact named
  · intro empty
    exact named (String.append_eq_empty_iff.1 empty).1

end EnsureStep

namespace RestClient

variable {c : RestClient} {σ : Type}

/-- Where a connected client sends the calls of a step: a creation to the collection of the kind in
the namespace of the step, the read and every update of an object of that identity to what is
behind this collection, a slash and the name. -/
theorem queries_call (connected : c.connected = true) (some_ : step.objectName ≠ "")
    (answer : σ → HttpRequest → Except TransportFault HttpResponse × σ) (state : σ) :
    let collection := step.kind.path (some step.namespaceName) none none
    let own := collection ++ "/" ++ step.objectName
    (c.call step.read).queries answer state = [⟨"GET", c.address ++ own, none⟩] ∧
      ∀ object, step.Names object →
        (c.call (.create step.kind object)).queries answer state =
            [⟨"POST", c.address ++ collection, some object⟩] ∧
          (c.call (.update step.kind object)).queries answer state =
            [⟨"PUT", c.address ++ own, some object⟩] := by
  intro collection own
  have isOwn : step.kind.path (some step.namespaceName) (some step.objectName) none = own :=
    step.kind.path_some _ some_
  constructor
  · rw [EnsureStep.read, call, ResourceKind.partOf_str, ResourceKind.partOf_str,
      ResourceKind.path_part_namespace, ResourceKind.path_part_name, isOwn]
    exact queries_request connected _ _ _ _ _
  · intro object names
    rw [call, call, names.collectionPath, names.objectPath, isOwn]
    exact ⟨queries_request connected _ _ _ _ _, queries_request connected _ _ _ _ _⟩

end RestClient

/-- Targets that differ never share a path.  And the path at which an object of a declaration with
a name is created leads, with a slash and the name of the object behind it, to where the object is
read and updated, be it as it is wanted or a live object after what its step writes. -/
theorem paths_identify_objects :
    Function.Injective Target.path ∧
      ∀ (d : Declaration) (routeClass : Option String) (step : EnsureStep) (c : RestClient),
        d.name ≠ "" → step ∈ d.steps routeClass → c.connected = true →
          step.Names step.desired ∧
            (∀ live edited, step.Names live → step.applyDiff live = ⟨edited, none⟩ →
              step.Names edited) ∧
            ∀ {σ : Type} (answer : σ → HttpRequest → Except TransportFault HttpResponse × σ)
              (state : σ),
              let collection := step.kind.path (some step.namespaceName) none none
              let own := collection ++ "/" ++ step.objectName
              let sent := fun call => (c.call call).queries answer state
              sent (.create step.kind step.desired) =
                  [⟨"POST", c.address ++ collection, some step.desired⟩] ∧
                sent step.read = [⟨"GET", c.address ++ own, none⟩] ∧
                ∀ object, step.Names object → sent (.update step.kind object) =
                  [⟨"PUT", c.address ++ own, some object⟩] := by
  refine ⟨Target.path_injective, fun d routeClass step c named among connected => ?_⟩
  have desired := EnsureStep.names_desired among
  refine ⟨desired, fun live edited names edit => names.applyDiff among edit, ?_⟩
  intro σ answer state collection own sent
  obtain ⟨read, writes⟩ := RestClient.queries_call connected
    (EnsureStep.objectName_ne_empty among named) answer state
  exact ⟨(writes _ desired).1, read, fun object names => (writes object names).2⟩

/-- A route is created in the collection of its namespace, read behind it, and updated there when
its class has changed; and names that are words of paths lead to different paths. -/
theorem paths_identify_objects_of_a_route :
    let d : Declaration := ⟨"web", "default", "", none, ⟨"nginx:1", 1, 8080, 80⟩, ⟨0, none⟩, []⟩
    let step := d.routeStep "nginx"
    let edited := (step.applyDiff (d.route "older")).live
    let c : RestClient :=
      { RestClient.new "https://cluster/" none none true (.ofInt 10) with connected := true }
    let namespaces : Segment := ⟨"namespaces", by decide, by decide⟩
    let services : Segment := ⟨"services", by decide, by decide⟩
    let part : Target := ⟨.service, none, some namespaces, some services, by decide, by simp⟩
    let all : Target := ⟨.service, some namespaces, some services, none, by decide, by simp⟩
    d.name ≠ "" ∧ step ∈ d.steps (some "nginx") ∧ c.connected = true ∧ part.path ≠ all.path ∧
      ∀ reply : Except TransportFault HttpResponse,
        let sent := fun call => (c.call call).queries (fun (_ : Unit) _ => (reply, ())) ()
        let collection := "https://cluster/apis/networking.k8s.io/v1/namespaces/default/ingresses"
        let own := collection ++ "/web-ingress"
        sent (.create .ingress step.desired) = [⟨"POST", collection, some step.desired⟩] ∧
          sent step.read = [⟨"GET", own, none⟩] ∧
          sent (.update .ingress edited) = [⟨"PUT", own, some edited⟩] := by
  intro d step edited c namespaces services part all
  have named : d.name ≠ "" := by decide
  have among : step ∈ d.steps (some "nginx") := by simp [Declaration.steps, step]
  have connected : c.connected = true := rfl
  obtain ⟨injective, dependents⟩ := paths_identify_objects
  obtain ⟨-, edits, sends⟩ := dependents d _ step c named among connected
  have isEdited : step.Names edited := edits (d.route "older") edited ⟨rfl, rfl⟩ rfl
  have differ : part ≠ all := fun same => by cases congrArg Target.subresource same
  refine ⟨named, among, connected, injective.ne differ, ?_⟩
  intro reply sent collection own
  obtain ⟨created, read, updated⟩ := sends (fun (_ : Unit) _ => (reply, ())) ()
  have place : step.kind.path (some step.namespaceName) none none =
      "/apis/networking.k8s.io/v1/namespaces/default/ingresses" := by
    simp [ResourceKind.path, ResourceKind.segments, ResourceKind.part, Option.filter, step, d,
      Declaration.routeStep, ResourceKind.ingress]
  have address : c.address = "https://cluster" := by decide +kernel
  rw [place, address] at created
  rw [place, address] at read
  have updated := updated edited isEdited
  rw [place, address] at updated
  exact ⟨created, read, updated⟩

end AppOperator
