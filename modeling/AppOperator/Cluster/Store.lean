import AppOperator.Cluster.Call

/-!
# A cluster in memory

Objects are kept by kind, namespace and name, in the order in which they came.
One counter gives the versions of written objects and of lists, another the
identities of objects that come without one.  Every call is recorded; a call for
which a failure is arranged is answered with it and changes nothing.
-/

set_option autoImplicit false

namespace AppOperator

structure ObjectPlace where
  kind : String
  namespaceName : Json
  name : Json
deriving Inhabited

/-- Places agree when their kinds are the same and the rest agrees as values. -/
instance : BEq ObjectPlace :=
  ⟨fun a b => a.kind == b.kind && a.namespaceName.keyForm == b.namespaceName.keyForm
    && a.name.keyForm == b.name.keyForm⟩

/-- A call as it is recorded: the operation, the kind, and what was named. -/
structure RecordedCall where
  operation : Operation
  kind : String
  namespaceName : Json
  subject : Json
deriving DecidableEq

/-- A cluster in memory. -/
structure Store where
  objects : List (ObjectPlace × Json)
  calls : List RecordedCall
  failures : List ((Operation × String) × Fault)
  nextVersion : Nat
  nextUid : Nat

namespace Store

def empty : Store where
  objects := []
  calls := []
  failures := []
  nextVersion := 1
  nextUid := 1

def get? (s : Store) (place : ObjectPlace) : Option Json :=
  (s.objects.find? fun entry => entry.1 == place).map (·.2)

/-- Objects with one of them replaced where it stands, or put at the end. -/
def place (objects : List (ObjectPlace × Json)) (at_ : ObjectPlace) (object : Json) :
    List (ObjectPlace × Json) :=
  match objects with
  | [] => [(at_, object)]
  | (other, old) :: rest =>
      if other == at_ then (other, object) :: rest else (other, old) :: place rest at_ object

def put (s : Store) (at_ : ObjectPlace) (object : Json) : Store :=
  { s with objects := place s.objects at_ object }

def remove (s : Store) (at_ : ObjectPlace) : Store :=
  { s with objects := s.objects.filter fun entry => entry.1 != at_ }

/-- The next version as text, and the store that goes on from it. -/
def takeVersion (s : Store) : Json × Store :=
  (.str (Decimal.natText s.nextVersion), { s with nextVersion := s.nextVersion + 1 })

def record (s : Store) (operation : Operation) (kind : ResourceKind)
    (namespaceName subject : Json) : Store :=
  { s with calls := s.calls ++
      [⟨operation, kind.name, namespaceName.orElse (.str ""), subject.orElse (.str "")⟩] }

def failure? (s : Store) (operation : Operation) (kind : ResourceKind) : Option Fault :=
  (s.failures.find? fun entry => entry.1 == (operation, kind.name)).map (·.2)

/-- Arranges a failure, in place of an earlier one for the same operation and kind. -/
def fail (s : Store) (operation : Operation) (kind : ResourceKind) (fault : Fault) : Store :=
  { s with failures :=
      ((operation, kind.name), fault) :: s.failures.filter fun entry =>
        entry.1 != (operation, kind.name) }

def clearFailures (s : Store) : Store :=
  { s with failures := [] }

/-- The fields of a record that a part of it is to be added to. -/
def fieldsToExtend (x : Json) : Except Fault Fields :=
  match x with
  | .obj fields => .ok fields
  | other => .error (.noPart other.shape "setdefault")

def withDefault (fields : Fields) (name : String) (value : Json) : Fields :=
  if (Fields.get? fields name).isSome then fields else Fields.set fields name value

/-- Stores an object as given.  It gets the default namespace and a fresh identity
if it has none, and the next version in any case. -/
def seed (s : Store) (kind : ResourceKind) (object : Json) : Reply × Store :=
  let extended : Except Fault (Fields × Fields) := do
    let fields := withDefault (← fieldsToExtend object) "metadata" (.obj [])
    let metadata ← fieldsToExtend ((Fields.get? fields "metadata").getD .null)
    return (fields, metadata)
  match extended with
  | .error fault => (.error fault, s)
  | .ok (fields, metadata) =>
      let uid := "uid-" ++ Decimal.natText s.nextUid
      let (version, s) := takeVersion { s with nextUid := s.nextUid + 1 }
      let metadata := withDefault metadata "namespace" (.str "default")
      let metadata := withDefault metadata "uid" (.str uid)
      let metadata := Fields.set metadata "resourceVersion" version
      let object := Json.obj (Fields.set fields "metadata" (.obj metadata))
      let named : Except Fault ObjectPlace := do
        let namespaceName := (Fields.get? metadata "namespace").getD .null
        let name ← (Json.obj metadata).entry "name"
        return ⟨kind.name, ← namespaceName.asKey, ← name.asKey⟩
      match named with
      | .error fault => (.error fault, s)
      | .ok at_ => (.ok object, s.put at_ object)

/-- Namespace and name that an object states for itself. -/
def statedPlace (kind : ResourceKind) (object : Json) : Except Fault ObjectPlace := do
  let metadata ← object.entry "metadata"
  let namespaceName ← metadata.fieldOr "namespace" (.str "default")
  let name ← metadata.entry "name"
  return ⟨kind.name, namespaceName, name⟩

/-- A place that objects can be looked up at. -/
def usable (at_ : ObjectPlace) : Except Fault ObjectPlace := do
  return ⟨at_.kind, ← at_.namespaceName.asKey, ← at_.name.asKey⟩

/-- Records a call and answers it, or answers with the failure arranged for it. -/
def answering (s : Store) (operation : Operation) (kind : ResourceKind) (at_ : ObjectPlace)
    (answer : Store → ObjectPlace → Reply × Store) : Reply × Store :=
  let s := s.record operation kind at_.namespaceName at_.name
  match s.failure? operation kind with
  | some fault => (.error fault, s)
  | none =>
      match usable at_ with
      | .error fault => (.error fault, s)
      | .ok at_ => answer s at_

def get (s : Store) (kind : ResourceKind) (namespaceName name : Json) : Reply × Store :=
  s.answering .get kind ⟨kind.name, namespaceName, name⟩ fun s at_ =>
    match s.get? at_ with
    | some object => (.ok object, s)
    | none => (.error (.api (.missing (kind.plural ++ " " ++ name.shown ++ " not found"))), s)

def create (s : Store) (kind : ResourceKind) (object : Json) : Reply × Store :=
  match statedPlace kind object with
  | .error fault => (.error fault, s)
  | .ok at_ =>
      s.answering .create kind at_ fun s at_ =>
        if (s.get? at_).isSome then
          (.error (.api (.general (.int 409) "AlreadyExists" (at_.name.spoken ++ " exists"))), s)
        else s.seed kind object

def versionOf (object : Json) : Except Fault Json := do
  (← object.entry "metadata").entry "resourceVersion"

def withVersion (object version : Json) : Except Fault Json :=
  match object with
  | .obj fields =>
      match Fields.get? fields "metadata" with
      | some (.obj metadata) =>
          .ok (.obj (Fields.set fields "metadata"
            (.obj (Fields.set metadata "resourceVersion" version))))
      | some other => .error (.noAssignment other.shape)
      | none => .error (.missingField "metadata")
  | other => .error (.noNamedEntry other.shape)

/-- Replaces an object.  One that states a version must state the stored one. -/
def update (s : Store) (kind : ResourceKind) (object : Json) : Reply × Store :=
  match statedPlace kind object with
  | .error fault => (.error fault, s)
  | .ok at_ =>
      s.answering .update kind at_ fun s at_ =>
        match s.get? at_ with
        | none => (.error (.api (.missing "")), s)
        | some live =>
            let stale : Except Fault Bool := do
              let sent ← (← object.entry "metadata").fieldOr "resourceVersion" .null
              if sent.holds then return !sent.alike (← versionOf live) else return false
            match stale with
            | .error fault => (.error fault, s)
            | .ok true =>
                (.error (.api (.general (.int 409) "Conflict" "the object has been modified")), s)
            | .ok false =>
                let (version, s) := s.takeVersion
                match withVersion object version with
                | .error fault => (.error fault, s)
                | .ok written => (.ok written, s.put at_ written)

/-- Replaces the status of an object and nothing else of it. -/
def updateStatus (s : Store) (kind : ResourceKind) (object : Json) : Reply × Store :=
  match statedPlace kind object with
  | .error fault => (.error fault, s)
  | .ok at_ =>
      s.answering .updateStatus kind at_ fun s at_ =>
        match s.get? at_ with
        | none => (.error (.api (.missing "")), s)
        | some live =>
            match object.fieldOr "status" .null, live with
            | .ok status, .obj fields =>
                let marked := Json.obj (Fields.set fields "status" status)
                let (version, s) := (s.put at_ marked).takeVersion
                match withVersion marked version with
                | .error fault => (.error fault, s)
                | .ok written => (.ok written, s.put at_ written)
            | .ok _, other => (.error (.noAssignment other.shape), s)
            | .error fault, _ => (.error fault, s)

def delete (s : Store) (kind : ResourceKind) (namespaceName name : Json) : Reply × Store :=
  s.answering .delete kind ⟨kind.name, namespaceName, name⟩ fun s at_ =>
    if (s.get? at_).isSome then (.ok .null, s.remove at_)
    else (.error (.api (.missing "")), s)

def answer (s : Store) : ClientCall → Reply × Store
  | .get kind namespaceName name => s.get kind namespaceName name
  | .create kind object => s.create kind object
  | .update kind object => s.update kind object
  | .updateStatus kind object => s.updateStatus kind object
  | .delete kind namespaceName name => s.delete kind namespaceName name

/-- The objects of a kind, of one namespace or of all, and the version of the list. -/
def list (s : Store) (kind : ResourceKind) (namespaceName : Option String) :
    Except Fault (List Json × Json) × Store :=
  let s := s.record .list kind (Json.ofOption .str namespaceName) .null
  match s.failure? .list kind with
  | some fault => (.error fault, s)
  | none =>
      let inScope (at_ : ObjectPlace) : Bool :=
        at_.kind == kind.name && (namespaceName.all fun ns => at_.namespaceName == .str ns)
      let items := (s.objects.filter fun entry => inScope entry.1).map (·.2)
      let (version, s) := s.takeVersion
      (.ok (items, version), s)

/-- Changes what a path of names and positions leads to in a document; without a
value it is taken away. -/
def editAt (value : Option Json) : List Json → Json → Except Fault Json
  | [], _ => .error (.outOfRange .list)
  | [.str name], .obj fields =>
      .ok (.obj (match value with
        | some value => Fields.set fields name value
        | none => Fields.erase fields name))
  | .str name :: rest, .obj fields =>
      match Fields.get? fields name with
      | none => .error (.missingField name)
      | some inner => (editAt value rest inner).map fun inner => .obj (Fields.set fields name inner)
  | .int index :: rest, .arr items =>
      match items[index.toNat]?, rest with
      | none, _ => .error (.outOfRange .list)
      | some _, [] =>
          .ok (.arr (match value with
            | some value => items.set index.toNat value
            | none => items.eraseIdx index.toNat))
      | some inner, rest =>
          (editAt value rest inner).map fun inner => .arr (items.set index.toNat inner)
  | _, other => .error (.noNamedEntry other.shape)

/-- Changes a stored object where it lies, without a new version; the result says
whether there is one. -/
def edit (s : Store) (at_ : ObjectPlace) (path : List Json) (value : Option Json) :
    Except Fault Bool × Store :=
  match s.get? at_ with
  | none => (.ok false, s)
  | some object =>
      match editAt value path object with
      | .error fault => (.error fault, s)
      | .ok changed => (.ok true, s.put at_ changed)

/-- Opens a watch from a position; it is refused or goes through. -/
def watch (s : Store) (kind : ResourceKind) (namespaceName : Option String) (position : Json) :
    Except Fault Unit × Store :=
  let s := s.record .watch kind (Json.ofOption .str namespaceName) position
  match s.failure? .watch kind with
  | some fault => (.error fault, s)
  | none => (.ok (), s)

end Store

end AppOperator
