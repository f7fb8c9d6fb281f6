import AppOperator.Proofs.Cluster.Paths
import AppOperator.Proofs.Command.Submitting
import AppOperator.Proofs.Watch.Ownership

/-!
# Where submissions go

The operator knows a declaration by its namespace and its name, and it takes the default namespace
where the metadata have none or an empty one (`Identity`).  A submission puts the default into the
metadata only where there is no namespace, and a path leaves out what is empty.  So all requests of
a submission go to one namespace, and this is the one of the key unless the document states an
empty namespace.
-/

set_option autoImplicit false

namespace AppOperator

/-! ## What metadata have under a name -/

/-- What a value is to a reader of texts. -/
inductive Seen where
  | text (text : String)
  | empty
  | other
deriving DecidableEq, Repr

def Seen.holds : Seen → Bool
  | .text s => s != ""
  | .empty => false
  | .other => true

def Json.seen : Json → Seen
  | .str s => .text s
  | x => if x.holds then .other else .empty

def Yaml.Document.seen (d : Document) : Value → Seen
  | .text s => .text s
  | value => if d.holds value then .other else .empty

def Yaml.Document.entry? (d : Document) (record : Value) (key : String) : Option Value :=
  (d.entries? record).bind fun entries => entries.get? (.text key)

theorem Json.seen_eq_text_iff {x : Json} {s : String} : x.seen = .text s ↔ x = .str s := by
  cases x with
  | str own => simp [seen]
  | _ =>
      simp only [seen, reduceCtorEq, iff_false]
      split <;> simp

theorem Json.seen_of_no_text {x : Json} (noText : ∀ s, x ≠ .str s) :
    x.seen = if x.holds then .other else .empty := by
  cases x with
  | str s => exact absurd rfl (noText s)
  | _ => rfl

theorem Json.holds_seen (x : Json) : x.seen.holds = x.holds := by
  cases x with
  | str own => rfl
  | _ =>
      simp only [seen]
      split <;> simp_all [Seen.holds]

namespace Yaml.Document

variable {d : Document} {value : Value} {s : String}

theorem seen_eq_text_iff : d.seen value = .text s ↔ value = .text s := by
  cases value with
  | text own => simp [seen]
  | _ =>
      simp only [seen, reduceCtorEq, iff_false]
      split <;> simp

theorem seen_of_no_text (noText : ∀ s, value ≠ .text s) :
    d.seen value = if d.holds value then .other else .empty := by
  cases value with
  | text s => exact absurd rfl (noText s)
  | _ => rfl

theorem holds_seen (d : Document) (value : Value) : (d.seen value).holds = d.holds value := by
  cases value with
  | text own => rfl
  | _ =>
      simp only [seen]
      split <;> simp_all [Seen.holds]

end Yaml.Document

namespace Command

/-- What the metadata of a document have under a name. -/
def Loaded.metadata? (loaded : Loaded) (name : String) : Option Seen :=
  match loaded with
  | .json x => (x.dig? ["metadata", name]).map Json.seen
  | .yaml d => ((d.entry? d.root "metadata").bind fun metadata => d.entry? metadata name).map d.seen

/-- The namespace that metadata stand for: the default one if they have none or an empty one. -/
def namespaceOf : Option Seen → Option String
  | none | some .empty => some defaultNamespace
  | some (.text s) => some (if s = "" then defaultNamespace else s)
  | some .other => none

/-- The document has a name and stands for a namespace. -/
structure Loaded.Identity (loaded : Loaded) (namespaceName name : String) : Prop where
  named : loaded.metadata? "name" = some (.text name)
  placed : namespaceOf (loaded.metadata? "namespace") = some namespaceName

/-- There is a namespace in the metadata, but it is empty. -/
def Loaded.emptyNamespace (loaded : Loaded) : Bool :=
  (loaded.metadata? "namespace").any fun seen => !seen.holds

/-- The namespace that requests for a document go to, if they go to one. -/
def Loaded.addressed (loaded : Loaded) (namespaceName : String) : Option String :=
  if loaded.emptyNamespace then none else some namespaceName

variable {loaded : Loaded} {namespaceName name : String} {submission : Submission}

/-! ## What paths are made from -/

theorem holds_of_placed {seen : Seen} (placed : namespaceOf (some seen) = some namespaceName)
    (holds : seen.holds = true) : seen = .text namespaceName := by
  cases seen with
  | text s =>
      have some_ : s ≠ "" := by simpa [Seen.holds] using holds
      rw [namespaceOf, if_neg some_] at placed
      rw [Option.some.inj placed]
  | empty => cases holds
  | other => cases placed

/-- What does not hold stands for the default namespace. -/
theorem namespaceOf_of_not_holds {seen : Seen} (empty : seen.holds = false) :
    namespaceOf (some seen) = some defaultNamespace := by
  cases seen with
  | text s =>
      have none : s = "" := by simpa [Seen.holds] using empty
      rw [namespaceOf, if_pos none]
  | empty => rfl
  | other => cases empty

theorem partOf_of_placed {y : Json} (placed : namespaceOf (some y.seen) = some namespaceName) :
    ResourceKind.partOf y = if y.seen.holds then some namespaceName else none := by
  rw [ResourceKind.partOf, Json.holds_seen]
  split
  · next holds =>
      rw [Json.seen_eq_text_iff.mp (holds_of_placed placed (y.holds_seen.trans holds))]
      rfl
  · rfl

namespace Submission

open Yaml (Document Value)

theorem partOf_text (d : Document) (s : String) :
    partOf d (.text s) = .ok (ResourceKind.part (some s)) := by
  by_cases empty : s = ""
  · subst empty
    rfl
  · have holds : d.holds (.text s) = true := by simpa [Document.holds] using empty
    have shown : d.checkShown (.text s) = .ok () := rfl
    simp only [partOf, holds, shown, ResourceKind.part, Option.filter]
    simp [empty]
    rfl

theorem partOf_of_placed {d : Document} {value : Value}
    (placed : namespaceOf (some (d.seen value)) = some namespaceName) :
    partOf d value = .ok (if (d.seen value).holds then some namespaceName else none) := by
  split
  · next holds =>
      have isText := Document.seen_eq_text_iff.mp (holds_of_placed placed holds)
      rw [isText, Document.seen] at holds
      have some_ : namespaceName ≠ "" := by simpa [Seen.holds] using holds
      rw [isText, partOf_text, ResourceKind.part_of_ne_empty some_]
  · next empty =>
      rw [Document.holds_seen, Bool.not_eq_true] at empty
      rw [partOf, empty]
      rfl

end Submission

/-- A submission belongs to a namespace, or to none, and has a name. -/
structure Submission.Belongs (submission : Submission) (namespaceName : Option String)
    (name : String) : Prop where
  namespaceName : submission.namespaceName = namespaceName
  name : submission.name = ResourceKind.part (some name)

theorem Loaded.addressed_of_absent (absent : loaded.metadata? "namespace" = none) :
    loaded.addressed namespaceName = some namespaceName := by
  rw [addressed, emptyNamespace, absent]
  rfl

theorem Loaded.addressed_of_present {seen : Seen} (present : loaded.metadata? "namespace" = some seen) :
    loaded.addressed namespaceName = if seen.holds then some namespaceName else none := by
  rw [addressed, emptyNamespace, present, Option.any_some]
  cases seen.holds <;> rfl

theorem metadata?_json (field : String) {fields metadata : Fields}
    (hasMetadata : Fields.get? fields "metadata" = some (.obj metadata)) :
    (Loaded.json (.obj fields)).metadata? field = (Fields.get? metadata field).map Json.seen := by
  rw [Loaded.metadata?, Json.dig?_of_field hasMetadata, Json.dig?_singleton]
  rfl

theorem ofJson_of_metadata {fields metadata : Fields} {value : Json}
    (hasMetadata : Fields.get? fields "metadata" = some (.obj metadata))
    (hasName : Fields.get? metadata "name" = some value) :
    ∃ submission, Submission.ofJson (.obj fields) = .ok submission ∧
      submission.namespaceName = ResourceKind.partOf
        ((Fields.get? metadata "namespace").getD (.str defaultNamespace)) ∧
      submission.name = ResourceKind.partOf value := by
  have document : Submission.withDefault fields "metadata" (.obj []) = fields := by
    rw [Submission.withDefault, hasMetadata]
    rfl
  have name : Fields.get? (Submission.withDefault metadata "namespace" (.str defaultNamespace)) "name" =
      some value := by
    unfold Submission.withDefault
    split
    · exact hasName
    · rw [Fields.get?_set_of_ne _ _ (by decide), hasName]
  have namespaceName : Fields.get? (Submission.withDefault metadata "namespace" (.str defaultNamespace))
      "namespace" = some ((Fields.get? metadata "namespace").getD (.str defaultNamespace)) := by
    unfold Submission.withDefault
    cases found : Fields.get? metadata "namespace" with
    | none => exact Fields.get?_set_self _ _ _
    | some own => exact found
  simp only [Submission.ofJson, Submission.fieldsOf, bind, Except.bind, document, hasMetadata,
    Option.getD_some, Json.entry, name, namespaceName]
  exact ⟨_, rfl, rfl, rfl⟩

theorem belongs_ofJson {x : Json} (identity : (Loaded.json x).Identity namespaceName name) :
    ∃ submission, Submission.ofJson x = .ok submission ∧
      submission.Belongs ((Loaded.json x).addressed namespaceName) name := by
  obtain ⟨named, placed⟩ := identity
  obtain ⟨value, leads, isName⟩ := Option.map_eq_some_iff.mp named
  rw [Json.seen_eq_text_iff] at isName
  subst isName
  obtain ⟨fields, inner, rfl, hasMetadata, leads⟩ := Json.dig?_cons_eq_some_iff.mp leads
  rw [Json.dig?_singleton] at leads
  obtain ⟨metadata, rfl, hasName⟩ := Json.field?_eq_some_iff.mp leads
  have stated := metadata?_json "namespace" hasMetadata
  obtain ⟨submission, loads, inNamespace, isName⟩ := ofJson_of_metadata hasMetadata hasName
  refine ⟨submission, loads, ?_, isName.trans (ResourceKind.partOf_str name)⟩
  rw [stated] at placed
  rw [inNamespace]
  cases found : Fields.get? metadata "namespace" with
  | none =>
      rw [found] at placed stated
      rw [Loaded.addressed_of_absent stated, ← placed]
      rfl
  | some value =>
      rw [found] at placed stated
      rw [Loaded.addressed_of_present stated]
      exact partOf_of_placed placed

section Yaml

open Yaml (Document Value Entries)
open Submission (withDefaultEntry entriesOf)

variable {d : Document} {record value metadata : Value} {entries : Entries} {key : String}

theorem entriesOf_eq_ok (isRecord : d.entries? record = some entries) :
    entriesOf d record = .ok entries := by
  rw [entriesOf, isRecord]

theorem withDefaultEntry_of_present (isRecord : d.entries? record = some entries)
    (has : entries.get? (.text key) = some value) (default : Json) :
    withDefaultEntry d record key default = .ok (value, d) := by
  simp only [withDefaultEntry, entriesOf_eq_ok isRecord, bind, Except.bind, has]
  rfl

theorem withDefaultEntry_of_absent (isRecord : d.entries? record = some entries)
    (absent : entries.get? (.text key) = none) (default : String) :
    withDefaultEntry d record key (.str default) =
      .ok (.text default, d.setEntry record key (.text default)) := by
  simp only [withDefaultEntry, entriesOf_eq_ok isRecord, bind, Except.bind, absent, Document.insert]
  rfl

/-- The namespace that is put into metadata leaves their name alone. -/
theorem exists_namespace (isMetadata : d.entries? metadata = some entries)
    (hasName : entries.get? (.text "name") = some value) : ∃ last own,
    withDefaultEntry d metadata "namespace" (.str defaultNamespace) =
        .ok ((entries.get? (.text "namespace")).getD (.text defaultNamespace), last) ∧
      last.entries? metadata = some own ∧ own.get? (.text "name") = some value ∧
      (entries.get? (.text "namespace") ≠ none → last = d) := by
  cases found : entries.get? (.text "namespace") with
  | some stated =>
      exact ⟨d, entries, withDefaultEntry_of_present isMetadata found _, isMetadata, hasName,
        fun _ => rfl⟩
  | none =>
      refine ⟨_, _, withDefaultEntry_of_absent isMetadata found _,
        Document.entries?_setEntry isMetadata, ?_, fun stated => absurd rfl stated⟩
      rw [Entries.get?_set_of_ne _ _ (by decide), hasName]

theorem belongs_ofYaml (identity : (Loaded.yaml d).Identity namespaceName name) :
    ∃ submission, Submission.ofYaml d = .ok submission ∧
      submission.Belongs ((Loaded.yaml d).addressed namespaceName) name := by
  obtain ⟨named, placed⟩ := identity
  obtain ⟨value, leads, isName⟩ := Option.map_eq_some_iff.mp named
  rw [Document.seen_eq_text_iff] at isName
  subst isName
  obtain ⟨metadata, hasMetadata, hasName⟩ := Option.bind_eq_some_iff.mp leads
  have stated : (Loaded.yaml d).metadata? "namespace" = (d.entry? metadata "namespace").map d.seen := by
    rw [Loaded.metadata?, hasMetadata, Option.bind_some]
  obtain ⟨rootEntries, isRoot, hasMetadata⟩ := Option.bind_eq_some_iff.mp hasMetadata
  obtain ⟨entries, isMetadata, hasName⟩ := Option.bind_eq_some_iff.mp hasName
  obtain ⟨last, own, puts, isOwn, hasName, kept⟩ := exists_namespace isMetadata hasName
  have namespaceEntry : d.entry? metadata "namespace" = entries.get? (.text "namespace") := by
    rw [Document.entry?, isMetadata, Option.bind_some]
  rw [namespaceEntry] at stated
  rw [stated] at placed
  have part : Submission.partOf last ((entries.get? (.text "namespace")).getD (.text defaultNamespace)) =
      .ok ((Loaded.yaml d).addressed namespaceName) := by
    cases found : entries.get? (.text "namespace") with
    | none =>
        rw [found] at placed stated
        rw [Loaded.addressed_of_absent stated, ← placed, Option.getD_none, Submission.partOf_text]
        rfl
    | some value =>
        rw [found] at placed stated
        rw [kept (by simp [found]), Loaded.addressed_of_present stated, Option.getD_some]
        exact Submission.partOf_of_placed placed
  simp only [Submission.ofYaml, withDefaultEntry_of_present isRoot hasMetadata, puts,
    entriesOf_eq_ok isOwn, hasName, part, Submission.partOf_text, bind, Except.bind]
  exact ⟨_, rfl, rfl, rfl⟩

end Yaml

/-- A document with an identity can be submitted, and the submission belongs to its namespace. -/
theorem belongs (identity : loaded.Identity namespaceName name) : ∃ submission,
    loaded.submission = .ok submission ∧
      submission.Belongs (loaded.addressed namespaceName) name := by
  cases loaded with
  | json x => exact belongs_ofJson identity
  | yaml d => exact belongs_ofYaml identity

/-! ## What the operator reads -/

section Sent

open Yaml (Document Value OnlyText)

variable {d : Document} {value : Value} {fuel : Nat} {outer : List Nat} {x y : Json} {field : String}

/-- What is sent for a value is seen as the value is. -/
theorem seen_of_plainIn (sent : d.plainIn fuel outer value = .ok y) : d.seen value = y.seen := by
  obtain ⟨holds, texts, -⟩ := Document.agrees_of_plainIn sent
  by_cases isText : ∃ s, y = .str s
  · obtain ⟨s, rfl⟩ := isText
    rw [(texts s).mp rfl]
    rfl
  · have noText : ∀ s, y ≠ .str s := fun s same => isText ⟨s, same⟩
    rw [Json.seen_of_no_text noText, Document.seen_of_no_text fun s => (texts s).not.mp (noText s),
      holds]

/-- What is sent for a record has a field where the record has an entry. -/
theorem entry?_of_plainIn (keys : d.KeysDiffer) (only : OnlyText field)
    (sent : d.plainIn fuel outer value = .ok y) :
    d.entry? value field = none ∧ y.field? field = none ∨
      ∃ inner z fuel' outer', d.entry? value field = some inner ∧ y.field? field = some z ∧
        d.plainIn fuel' outer' inner = .ok z := by
  cases isRecord : d.entries? value with
  | none =>
      refine .inl ⟨by rw [Document.entry?, isRecord, Option.bind_none], ?_⟩
      cases y with
      | obj fields =>
          obtain ⟨entries, isToo⟩ := (Document.agrees_of_plainIn sent).2.2 fields rfl
          rw [isRecord] at isToo
          cases isToo
      | _ => rfl
  | some entries =>
      rw [Document.entry?, isRecord, Option.bind_some]
      have differ := keys value entries isRecord
      cases has : entries.get? (.text field) with
      | none => exact .inl ⟨rfl, Document.get?_of_plainIn_absent only isRecord has differ sent⟩
      | some inner =>
          obtain ⟨fields, z, fuel', outer', rfl, hasField, sentInner⟩ :=
            Document.get?_of_plainIn only isRecord differ has sent
          exact .inr ⟨inner, z, fuel', outer', rfl, hasField, sentInner⟩

/-- A document shows the same in its metadata as what is sent for it. -/
theorem metadata?_of_plain (keys : d.KeysDiffer) (only : OnlyText field) (sent : d.plain = .ok x) :
    (Loaded.yaml d).metadata? field = (Loaded.json x).metadata? field := by
  rw [Loaded.metadata?, Loaded.metadata?, Json.dig?]
  obtain ⟨none, noField⟩ | ⟨metadata, inner, _, _, has, hasField, sentInner⟩ :=
    entry?_of_plainIn keys (by decide : OnlyText "metadata") sent
  · rw [none, noField]
    rfl
  · rw [has, hasField, Option.bind_some, Option.bind_some, Json.dig?_singleton]
    obtain ⟨none, noField⟩ | ⟨value, z, _, _, has, hasField, sentValue⟩ :=
      entry?_of_plainIn keys only sentInner
    · rw [none, noField]
      rfl
    · rw [has, hasField, Option.map_some, Option.map_some, seen_of_plainIn sentValue]

end Sent

/-- The document as it is sent, if it can be. -/
def Loaded.plain : Loaded → Except Fault Json
  | .json x => .ok x
  | .yaml d => d.plain

/-- A key of texts is read from metadata that have a name and stand for a namespace. -/
theorem identity_ofJson {x : Json}
    (reads : keyFor .simpleApp x = .ok (some (.ofTexts namespaceName name))) :
    (Loaded.json x).Identity namespaceName name := by
  simp only [keyFor, if_true, bind_eq_ok_iff, Json.fieldOr_eq_ok_iff, Json.entry_eq_ok_iff] at reads
  obtain ⟨inner, ⟨fields, rfl, isInner⟩, place, inNamespace, own, ⟨metadata, rfl, hasName⟩, same⟩ := reads
  cases same
  have hasMetadata : Fields.get? fields "metadata" = some (.obj metadata) := by
    cases found : Fields.get? fields "metadata" with
    | none =>
        rw [found] at isInner
        cases isInner
        cases hasName
    | some value =>
        rw [found] at isInner
        exact congrArg some isInner.symm
  rw [statedNamespace, Json.fieldOr_obj] at inNamespace
  have place := Except.ok.inj inNamespace
  refine ⟨by rw [metadata?_json _ hasMetadata, hasName]; rfl, ?_⟩
  rw [metadata?_json _ hasMetadata]
  cases found : Fields.get? metadata "namespace" with
  | none =>
      rw [found] at place
      rw [← Json.str.inj place]
      rfl
  | some value =>
      rw [found, Option.getD_some] at place
      rw [Option.map_some]
      cases holds : value.holds with
      | true =>
          rw [orElse_of_holds holds] at place
          subst place
          have some_ : namespaceName ≠ "" := by simpa [Json.holds] using holds
          rw [Json.seen, namespaceOf, if_neg some_]
      | false =>
          rw [orElse_of_not_holds holds] at place
          rw [← Json.str.inj place]
          exact namespaceOf_of_not_holds (value.holds_seen.trans holds)

/-- A document has the identity that the operator reads in what is sent for it. -/
theorem identity_of_keyFor {x : Json} (keys : loaded.KeysDiffer) (sent : loaded.plain = .ok x)
    (reads : keyFor .simpleApp x = .ok (some (.ofTexts namespaceName name))) :
    loaded.Identity namespaceName name := by
  cases loaded with
  | json own =>
      cases sent
      exact identity_ofJson reads
  | yaml d =>
      obtain ⟨named, placed⟩ := identity_ofJson reads
      rw [← metadata?_of_plain keys (by decide) sent] at named placed
      exact ⟨named, placed⟩

/-! ## Where requests go -/

/-- A request for the object with a name in a namespace, or for its collection when the object is
to be created. -/
inductive Session.Addresses (s : Session) (namespaceName : Option String) (name : String) :
    SessionRequest → Prop where
  | get : Addresses s namespaceName name
      (s.sending "GET" (ResourceKind.simpleApp.path namespaceName (some name) none) none)
  | put (document : Json) : Addresses s namespaceName name
      (s.sending "PUT" (ResourceKind.simpleApp.path namespaceName (some name) none) (some document))
  | post (document : Json) : Addresses s namespaceName name
      (s.sending "POST" (ResourceKind.simpleApp.path namespaceName none none) (some document))

theorem Session.Addresses.url_eq {s : Session} {place : Option String} {request : SessionRequest}
    (addresses : s.Addresses place name request) (isGet : request.request.method = "GET") :
    request.request.url = s.address ++ ResourceKind.simpleApp.path place (some name) none := by
  cases addresses with
  | get => rfl
  | put document => exact absurd isGet (by decide : "PUT" ≠ "GET")
  | post document => exact absurd isGet (by decide : "POST" ≠ "GET")

/-- With a namespace a path goes elsewhere than without. -/
theorem path_ne_of_namespace (some_ : namespaceName ≠ "") (name : Option String) :
    ResourceKind.simpleApp.path none name none ≠
      ResourceKind.simpleApp.path (some namespaceName) name none := by
  have part := ResourceKind.part_of_ne_empty some_
  intro same
  have chars := String.toList_inj.mpr same
  -- behind the version one goes on with the plural, the other with the word for namespaces
  simp only [ResourceKind.path, ResourceKind.segments, part, String.toList_join] at chars
  simp [ResourceKind.simpleApp, ResourceKind.part] at chars

section Requests

variable {σ : Type} {answer : σ → SessionRequest → Answer × σ} {state : σ} {s : Session}
  {console : Console} {place : Option String}

theorem Submission.Belongs.objectPath_eq (belongs : submission.Belongs place name) :
    submission.objectPath = ResourceKind.simpleApp.path place (some name) none := by
  rw [objectPath, belongs.namespaceName, belongs.name, ResourceKind.path_part_name]

theorem Submission.Belongs.collectionPath_eq (belongs : submission.Belongs place name) :
    submission.collectionPath = ResourceKind.simpleApp.path place none none := by
  rw [collectionPath, belongs.namespaceName]

/-- All requests of a submission go to the place that it belongs to. -/
theorem addresses_of_mem_queries (belongs : submission.Belongs place name) :
    ∀ request ∈ (s.submit submission console).queries answer state, s.Addresses place name request := by
  intro request among
  rw [Session.queries_submit, belongs.objectPath_eq] at among
  obtain rfl | among := List.mem_cons.mp among
  · exact .get
  · rw [Option.mem_toList] at among
    generalize finding _ = heard at among
    cases heard with
    | missing | failed =>
        rw [Session.write?, belongs.collectionPath_eq] at among
        cases isDocument : submission.document with
        | ok document =>
            rw [isDocument] at among
            cases among
            exact .post document
        | error fault =>
            rw [isDocument] at among
            cases among
    | found existing =>
        rw [Session.write?, belongs.objectPath_eq] at among
        cases isDocument : submission.replacing existing with
        | ok document =>
            rw [isDocument] at among
            cases among
            exact .put document
        | error fault =>
            rw [isDocument] at among
            cases among
    | broken fault => cases among

theorem get_mem_queries (s : Session) (belongs : submission.Belongs place name)
    (answer : σ → SessionRequest → Answer × σ) (console : Console) (state : σ) :
    s.sending "GET" (ResourceKind.simpleApp.path place (some name) none) none ∈
      (s.submit submission console).queries answer state := by
  rw [Session.queries_submit, belongs.objectPath_eq]
  exact List.mem_cons_self

end Requests

theorem ne_empty_of_placed {seen? : Option Seen} (placed : namespaceOf seen? = some namespaceName) :
    namespaceName ≠ "" := by
  rintro rfl
  unfold namespaceOf at placed
  split at placed
  · exact absurd (Option.some.inj placed) (by decide)
  · exact absurd (Option.some.inj placed) (by decide)
  · split at placed
    · exact absurd (Option.some.inj placed) (by decide)
    · next some_ => exact some_ (Option.some.inj placed)
  · cases placed

/-- What the operator reads in a document is its key: the watch of declarations and the reader of
declarations agree on it, and the document has the identity that it states.  A document with an
identity can be submitted, and all requests of a submission, whoever answers them, go to one
namespace.  This is the namespace of the key exactly if the document has no empty namespace; with an
empty one, the requests go to no namespace.  A document from a file has keys that differ
(`keysDiffer_of_document`). -/
theorem submission_addresses_its_key_unless_empty (keys : loaded.KeysDiffer) :
    (∀ (x : Json) (d : Declaration), loaded.plain = .ok x → Declaration.ofResource x = .ok d →
      keyFor .simpleApp x = .ok (some d.key) ∧ loaded.Identity d.namespaceName d.name) ∧
    ∀ namespaceName name, loaded.Identity namespaceName name →
      ∃ submission, loaded.submission = .ok submission ∧
        ∀ (s : Session) {σ : Type} (answer : σ → SessionRequest → Answer × σ) (console : Console)
          (state : σ),
          let sent := (s.submit submission console).queries answer state
          (∀ request ∈ sent, s.Addresses (loaded.addressed namespaceName) name request) ∧
          ((∀ request ∈ sent, s.Addresses (some namespaceName) name request) ↔
            loaded.emptyNamespace = false) := by
  constructor
  · intro x d sent parses
    have reads := (keyFor_of_ofResource parses).1
    exact ⟨reads, identity_of_keyFor keys sent reads⟩
  · intro namespaceName name identity
    obtain ⟨submission, loads, isPlace⟩ := belongs identity
    refine ⟨submission, loads, ?_⟩
    intro s σ answer console state sent
    have goes : ∀ request ∈ sent, s.Addresses (loaded.addressed namespaceName) name request :=
      addresses_of_mem_queries isPlace
    refine ⟨goes, ?_, ?_⟩
    · intro goesToKey
      by_contra empty
      rw [Bool.not_eq_false] at empty
      rw [Loaded.addressed, if_pos empty] at isPlace
      have url := (goesToKey _ (get_mem_queries s isPlace answer console state)).url_eq rfl
      change s.address ++ _ = s.address ++ _ at url
      rw [← String.toList_inj, String.toList_append, String.toList_append, List.append_right_inj,
        String.toList_inj] at url
      exact path_ne_of_namespace (ne_empty_of_placed identity.placed) _ url
    · intro notEmpty
      rwa [Loaded.addressed, notEmpty, if_neg (by simp)] at goes

/-- A declaration with a namespace as given. -/
def placedSample (namespaceName : Fields) : Json :=
  .obj [("apiVersion", .str "apps.myapp.io/v1"), ("kind", .str "SimpleApp"),
    ("metadata", .obj (("name", .str "web") :: namespaceName)),
    ("spec", .obj [("image", .str "nginx:1"), ("containerPort", .int 8080)])]

/-- Without a namespace requests go to the default one, whoever answers. -/
theorem submission_addresses_its_key_of_an_absent_namespace :
    let loaded := Loaded.json (placedSample [])
    ∃ d submission, Declaration.ofResource (placedSample []) = .ok d ∧
      loaded.submission = .ok submission ∧ d.key = .ofTexts "default" "web" ∧
      ∀ (s : Session) (reply : Answer) (console : Console),
        ∀ request ∈ (s.submit submission console).queries (fun (_ : Unit) _ => (reply, ())) (),
          s.Addresses (some "default") "web" request := by
  intro loaded
  obtain ⟨d, parses, isNamespace, isName⟩ : ∃ d,
      Declaration.ofResource (placedSample []) = .ok d ∧ d.namespaceName = "default" ∧
        d.name = "web" := ⟨_, rfl, rfl, rfl⟩
  have keys : loaded.KeysDiffer := trivial
  obtain ⟨reads, goes⟩ := submission_addresses_its_key_unless_empty keys
  obtain ⟨-, identity⟩ := reads _ d rfl parses
  rw [isNamespace, isName] at identity
  obtain ⟨submission, loads, goes⟩ := goes _ _ identity
  refine ⟨d, submission, parses, loads, by rw [Declaration.key, isNamespace, isName], ?_⟩
  intro s reply console
  exact (goes s _ console ()).2.mpr rfl

def missingAnswer : Answer :=
  .ok ⟨404, some "Not Found", ""⟩

/-- With an empty namespace the declaration is looked for and created without one, although its
key has the default one. -/
theorem empty_namespace_is_left_out :
    let declared := placedSample [("namespace", .null)]
    ∃ d submission document, Declaration.ofResource declared = .ok d ∧
      Submission.ofJson declared = .ok submission ∧ d.key = .ofTexts "default" "web" ∧
      keyFor .simpleApp declared = .ok (some d.key) ∧
      ∀ (s : Session) (console : Console),
        (s.submit submission console).queries (fun (_ : Unit) _ => (missingAnswer, ())) () =
          [s.sending "GET" "/apis/apps.myapp.io/v1/simpleapps/web" none,
            s.sending "POST" "/apis/apps.myapp.io/v1/simpleapps" (some document)] := by
  intro declared
  obtain ⟨d, submission, document, parses, loads, isKey, reads, isDocument, isPlace⟩ :
      ∃ d submission document, Declaration.ofResource declared = .ok d ∧
        Submission.ofJson declared = .ok submission ∧ d.key = .ofTexts "default" "web" ∧
        keyFor .simpleApp declared = .ok (some d.key) ∧ submission.document = .ok document ∧
        submission.Belongs none "web" :=
    ⟨_, _, _, rfl, rfl, rfl, rfl, rfl, rfl, rfl⟩
  refine ⟨d, submission, document, parses, loads, isKey, reads, fun s console => ?_⟩
  have missing : finding missingAnswer = .missing := rfl
  have object : ResourceKind.simpleApp.path none (some "web") none =
      "/apis/apps.myapp.io/v1/simpleapps/web" := by
    simp [ResourceKind.path, ResourceKind.segments, ResourceKind.simpleApp, ResourceKind.part,
      Option.filter]
  have collection : ResourceKind.simpleApp.path none none none =
      "/apis/apps.myapp.io/v1/simpleapps" := by
    simp [ResourceKind.path, ResourceKind.segments, ResourceKind.simpleApp, ResourceKind.part]
  rw [Session.queries_submit, missing, Session.write?, isDocument, isPlace.objectPath_eq,
    isPlace.collectionPath_eq, object, collection]
  rfl

end Command

end AppOperator
