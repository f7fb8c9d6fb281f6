import AppOperator.Declaration
import AppOperator.Resource
import AppOperator.Yaml.Plain

/-!
# Submissions

A document that is submitted says where it belongs: it has a name, and where it
states no namespace the default one is put into it.  It is sent as it is, or with
the version of the object that it replaces.  A document that was read from YAML
may hold what cannot be sent; this shows when it is to be sent and not before.
-/

set_option autoImplicit false

namespace AppOperator.Command

/-- Where a document belongs, and what is sent for it. -/
structure Submission where
  /-- the namespace and the name as parts of a path -/
  namespaceName : Option String
  name : Option String
  document : Except Fault Json
  /-- the document with the version of an existing object -/
  replacing : (existing : Json) → Except Fault Json

namespace Submission

def versionOf (existing : Json) : Except Fault Json := do
  (← existing.entry "metadata").entry "resourceVersion"

/-- The fields of a record that gets a default put into it. -/
def fieldsOf (x : Json) : Except Fault Fields :=
  match x with
  | .obj fields => .ok fields
  | other => .error (.noPart other.shape "setdefault")

/-- The fields with a default for one that is absent. -/
def withDefault (fields : Fields) (name : String) (default : Json) : Fields :=
  if (Fields.get? fields name).isSome then fields else Fields.set fields name default

def ofJson (x : Json) : Except Fault Submission := do
  let document := withDefault (← fieldsOf x) "metadata" (.obj [])
  let metadata :=
    withDefault (← fieldsOf ((Fields.get? document "metadata").getD .null)) "namespace"
      (.str defaultNamespace)
  let name ← (Json.obj metadata).entry "name"
  let sent (metadata : Fields) : Json := .obj (Fields.set document "metadata" (.obj metadata))
  return {
    namespaceName := ResourceKind.partOf ((Fields.get? metadata "namespace").getD .null)
    name := ResourceKind.partOf name
    document := .ok (sent metadata)
    replacing := fun existing => do
      return sent (Fields.set metadata "resourceVersion" (← versionOf existing)) }

/-- The entries of a record of a YAML document that gets a default put into it. -/
def entriesOf (d : Yaml.Document) (record : Yaml.Value) : Except Fault Yaml.Entries :=
  match d.entries? record with
  | some entries => .ok entries
  | none => .error (.noPart (d.shape record) "setdefault")

/-- The document with a default for an entry of a record, and the value of the entry. -/
def withDefaultEntry (d : Yaml.Document) (record : Yaml.Value) (key : String) (default : Json) :
    Except Fault (Yaml.Value × Yaml.Document) := do
  match (← entriesOf d record).get? (.text key) with
  | some value => return (value, d)
  | none =>
      let (value, d) := d.insert default
      return (value, d.setEntry record key value)

/-- What a value contributes to a path. -/
def partOf (d : Yaml.Document) (value : Yaml.Value) : Except Fault (Option String) := do
  if !d.holds value then return none
  d.checkShown value
  return some (d.spoken value)

/-- The submission of a YAML document.  What is put into a record is seen wherever the
record stands. -/
def ofYaml (d : Yaml.Document) : Except Fault Submission := do
  let (metadata, d) ← withDefaultEntry d d.root "metadata" (.obj [])
  let (namespaceName, d) ← withDefaultEntry d metadata "namespace" (.str defaultNamespace)
  match (← entriesOf d metadata).get? (.text "name") with
  | none => throw (.missingField "name")
  | some name =>
      return {
        namespaceName := ← partOf d namespaceName
        name := ← partOf d name
        document := d.plain
        replacing := fun existing => do
          let (version, d) := d.insert (← versionOf existing)
          (d.setEntry metadata "resourceVersion" version).plain }

/-- The path of the object, and that of the collection it belongs to. -/
def objectPath (s : Submission) : String :=
  ResourceKind.simpleApp.path s.namespaceName s.name none

def collectionPath (s : Submission) : String :=
  ResourceKind.simpleApp.path s.namespaceName none none

end Submission

end AppOperator.Command
