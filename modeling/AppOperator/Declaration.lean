import AppOperator.Checked

/-!
# Declarations

A declaration says what application is wanted: an image, how many replicas of
it, the port it listens on and the port it is offered under.  It is read from
the object that the cluster serves, with the defaults of its schema, and it is
written back in one normal form.  A status write changes the ready count and
nothing else of the object that was served.
-/

set_option autoImplicit false

namespace AppOperator

/-- The API group, version and kind of declarations. -/
def apiGroup : String := "apps.myapp.io"

def apiVersion : String := "apps.myapp.io/v1"

def declarationKind : String := "SimpleApp"

def defaultNamespace : String := "default"

/-- What a reconciliation is asked for: namespace and name as an object states
them.  Those of a declaration that parses are texts. -/
structure ObjectKey where
  namespaceName : Json
  name : Json
deriving Inhabited

/-- Keys agree when namespaces and names agree as values. -/
instance : BEq ObjectKey :=
  ⟨fun a b =>
    a.namespaceName.keyForm == b.namespaceName.keyForm && a.name.keyForm == b.name.keyForm⟩

theorem ObjectKey.beq_iff (a b : ObjectKey) : (a == b) = true ↔
    a.namespaceName.keyForm = b.namespaceName.keyForm ∧ a.name.keyForm = b.name.keyForm := by
  change (_ && _) = true ↔ _
  simp

instance : EquivBEq ObjectKey where
  rfl := (ObjectKey.beq_iff _ _).2 ⟨rfl, rfl⟩
  symm h :=
    let ⟨h, k⟩ := (ObjectKey.beq_iff _ _).1 h
    (ObjectKey.beq_iff _ _).2 ⟨h.symm, k.symm⟩
  trans h k :=
    let ⟨h, h'⟩ := (ObjectKey.beq_iff _ _).1 h
    let ⟨k, k'⟩ := (ObjectKey.beq_iff _ _).1 k
    (ObjectKey.beq_iff _ _).2 ⟨h.trans k, h'.trans k'⟩

/-- A key that a queue can hold. -/
def ObjectKey.usable (key : ObjectKey) : Except Fault ObjectKey := do
  return ⟨← key.namespaceName.asKey, ← key.name.asKey⟩

def ObjectKey.ofTexts (namespaceName name : String) : ObjectKey :=
  ⟨.str namespaceName, .str name⟩

/-- The wanted shape of the application. -/
structure Spec where
  image : String
  replicas : Int
  containerPort : Int
  servicePort : Int
deriving DecidableEq, Repr

/-- The observed state, which only the operator writes. -/
structure Status where
  readyReplicas : Int
  serviceStatus : Option String
deriving DecidableEq, Repr

/-- An application as declared; `raw` is the object as it was served. -/
structure Declaration where
  name : String
  namespaceName : String
  uid : String
  resourceVersion : Option String
  spec : Spec
  status : Status
  raw : Fields

namespace Spec

def check (x : Json) : Checked Spec :=
  Checked.model "DeclarationSpec" x fun fields => do
    let (image, replicas, containerPort, servicePort) ←
      Checked.both (Checked.field fields ["image"] Checked.nonEmptyText none) <|
      Checked.both (Checked.field fields ["replicas"] Checked.positive (some 1)) <|
      Checked.both (Checked.field fields ["containerPort", "container_port"] Checked.port none)
        (Checked.field fields ["servicePort", "service_port"] Checked.whole (some 80))
    return ⟨image, replicas, containerPort, servicePort⟩

def ofJson (x : Json) : Except Fault Spec :=
  (check x).orFault "DeclarationSpec"

def toJson (spec : Spec) : Json :=
  .obj [("image", .str spec.image), ("replicas", .int spec.replicas),
    ("containerPort", .int spec.containerPort), ("servicePort", .int spec.servicePort)]

end Spec

namespace Status

/-- The status of an application of which nothing has been observed. -/
def initial : Status := ⟨0, none⟩

def check (x : Json) : Checked Status :=
  Checked.model "DeclarationStatus" x fun fields => do
    let (readyReplicas, serviceStatus) ←
      Checked.both
        (Checked.field fields ["readyReplicas", "ready_replicas"] Checked.whole (some 0))
        (Checked.field fields ["serviceStatus", "service_status"] Checked.optionalText (some none))
    return ⟨readyReplicas, serviceStatus⟩

def ofJson (x : Json) : Except Fault Status :=
  (check x).orFault "DeclarationStatus"

/-- A service status that is absent is left out. -/
def toJson (status : Status) : Json :=
  .obj (("readyReplicas", .int status.readyReplicas) ::
    (status.serviceStatus.toList.map fun text => ("serviceStatus", .str text)))

end Status

namespace Declaration

def key (d : Declaration) : ObjectKey :=
  ObjectKey.ofTexts d.namespaceName d.name

/-- Reads a declaration from an object of the cluster.  An absent or empty
namespace is the default one, and an absent or empty section is an empty record. -/
def ofResource (object : Json) : Except Fault Declaration := do
  let metadata ← object.fieldOr "metadata" (.obj [])
  let name ← metadata.entry "name"
  let namespaceName ← metadata.fieldOr "namespace" .null
  let uid ← metadata.fieldOr "uid" (.str "")
  let resourceVersion ← metadata.fieldOr "resourceVersion" .null
  let spec ← Spec.ofJson ((← object.fieldOr "spec" .null).orElse (.obj []))
  let status ← Status.ofJson ((← object.fieldOr "status" .null).orElse (.obj []))
  let checked : Checked Declaration := do
    let (name, namespaceName, uid, resourceVersion, raw) ←
      Checked.both (Checked.text ["name"] name) <|
      Checked.both (Checked.text ["namespace"] (namespaceName.orElse (.str defaultNamespace))) <|
      Checked.both (Checked.text ["uid"] uid) <|
      Checked.both (Checked.optionalText ["resource_version"] resourceVersion)
        (Checked.fieldsOf ["raw"] object)
    return ⟨name, namespaceName, uid, resourceVersion, spec, status, raw⟩
  checked.orFault "Declaration"

/-- Reads a declaration from its own fields, with its sections as records. -/
def ofFields (x : Json) : Except Fault Declaration :=
  let checked : Checked Declaration :=
    Checked.model "Declaration" x fun fields => do
      let (name, namespaceName, uid, resourceVersion, spec, status, raw) ←
        Checked.both (Checked.field fields ["name"] Checked.text none) <|
        Checked.both (Checked.field fields ["namespace"] Checked.text (some defaultNamespace)) <|
        Checked.both (Checked.field fields ["uid"] Checked.text (some "")) <|
        Checked.both
          (Checked.field fields ["resource_version"] Checked.optionalText (some none)) <|
        Checked.both
          (Checked.field fields ["spec"] (fun _ x => (Spec.check x).within "spec") none) <|
        Checked.both
          (Checked.field fields ["status"] (fun _ x => (Status.check x).within "status")
            (some Status.initial))
          (Checked.field fields ["raw"] Checked.fieldsOf (some []))
      return ⟨name, namespaceName, uid, resourceVersion, spec, status, raw⟩
  checked.orFault "Declaration"

/-- A text field that is written only when it says something. -/
def writtenText (name : String) (text : String) : Fields :=
  if text == "" then [] else [(name, .str text)]

/-- The normal form of a declaration.  Identity and version are left out when empty. -/
def toManifest (d : Declaration) : Json :=
  .obj [("apiVersion", .str apiVersion), ("kind", .str declarationKind),
    ("metadata", .obj ([("name", .str d.name), ("namespace", .str d.namespaceName)]
      ++ writtenText "uid" d.uid ++ writtenText "resourceVersion" (d.resourceVersion.getD ""))),
    ("spec", d.spec.toJson), ("status", d.status.toJson)]

/-- What a document consists of, one after the other, if it consists of anything. -/
def partsOf? : Json → Option (List Json)
  | .arr items => some items
  | .str s => some (s.toList.map fun c => .str (String.singleton c))
  | .obj fields => some (fields.map fun field => .str field.1)
  | _ => none

/-- The field that one entry of a list of pairs stands for. -/
def pairOf (index : Nat) (entry : Json) : Except Fault (String × Json) :=
  match partsOf? entry with
  | none => .error (.noNumberedEntry entry.shape)
  | some [name, value] => name.asKey.map fun name => (name.spoken, value)
  | some parts =>
      .error (.badValue ("dictionary update sequence element #" ++ Decimal.natText index
        ++ " has length " ++ Decimal.natText parts.length ++ "; 2 is required"))

def pairsFrom (index : Nat) : List Json → Except Fault (List (String × Json))
  | [] => .ok []
  | entry :: rest => do
      let pair ← pairOf index entry
      return pair :: (← pairsFrom (index + 1) rest)

/-- The fields of a section that is to be copied: a record, nothing, or a list of pairs. -/
def copiedFields (x : Json) : Except Fault Fields :=
  if !x.holds then .ok []
  else
    match x with
    | .obj fields => .ok fields
    | other =>
        match partsOf? other with
        | some entries => (pairsFrom 0 entries).map Fields.ofPairs
        | none => .error (.noNumberedEntry other.shape)

/-- The object for a status write: the object that was served, or the normal form
of a declaration that was not, with another ready count. -/
def withReadyReplicas (d : Declaration) (ready : Json) : Except Fault Json := do
  let object : Fields :=
    if d.raw.isEmpty then
      match d.toManifest with
      | .obj fields => fields
      | _ => []
    else d.raw
  let status ← copiedFields ((Fields.get? object "status").getD .null)
  return .obj (Fields.set object "status" (.obj (Fields.set status "readyReplicas" ready)))

end Declaration

/-- The fields of a new declaration, as a person gives them. -/
structure NewDeclaration where
  name : Json
  image : Json
  containerPort : Json
  replicas : Json := .int 1
  servicePort : Json := .int 80
  namespaceName : Json := .str defaultNamespace

/-- The object that declares a new application. -/
def NewDeclaration.render (d : NewDeclaration) : Json :=
  .obj [("apiVersion", .str apiVersion), ("kind", .str declarationKind),
    ("metadata", .obj [("name", d.name), ("namespace", d.namespaceName)]),
    ("spec", .obj [("image", d.image), ("replicas", d.replicas),
      ("containerPort", d.containerPort), ("servicePort", d.servicePort)])]

end AppOperator
