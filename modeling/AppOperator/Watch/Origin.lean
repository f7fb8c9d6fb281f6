import AppOperator.Resource
import AppOperator.Declaration

/-!
# Where a change belongs

A change to a declaration asks for a pass over that declaration.  A change to
any other object asks for a pass over the declaration that controls it, which
the object names among its owners; an object without such an owner asks for
nothing.
-/

set_option autoImplicit false

namespace AppOperator

/-- The namespace that an object states, the default one where it states none. -/
def statedNamespace (metadata : Json) : Except Fault Json := do
  return (← metadata.fieldOr "namespace" .null).orElse (.str defaultNamespace)

/-- What can be gone through one by one. -/
def Json.elements (x : Json) : Except Fault (List Json) :=
  match Declaration.partsOf? x with
  | some parts => .ok parts
  | none => .error (.noNumberedEntry x.shape)

/-- An owner reference names a declaration as the controller. -/
def isControllingDeclaration (owner : Json) : Except Fault Bool := do
  if !(← owner.fieldOr "controller" .null).holds then return false
  if !(← owner.fieldOr "kind" .null).isText declarationKind then return false
  match ← owner.fieldOr "apiVersion" (.str "") with
  | .str version => return (Text.split '/' version).head? == some apiGroup
  | other => .error (.noPart other.shape "split")

def firstController : List Json → Except Fault (Option Json)
  | [] => .ok none
  | owner :: rest => do
      if ← isControllingDeclaration owner then return some owner else firstController rest

def ownerKey (object : Json) : Except Fault (Option ObjectKey) := do
  let metadata ← object.fieldOr "metadata" (.obj [])
  let owners ← ((← metadata.fieldOr "ownerReferences" .null).orElse (.arr [])).elements
  match ← firstController owners with
  | none => return none
  | some owner =>
      let namespaceName ← statedNamespace metadata
      return some ⟨namespaceName, ← owner.entry "name"⟩

/-- The key that a change to an object of a kind asks for. -/
def keyFor (kind : ResourceKind) (object : Json) : Except Fault (Option ObjectKey) :=
  if kind = .simpleApp then do
    let metadata ← object.fieldOr "metadata" (.obj [])
    let namespaceName ← statedNamespace metadata
    return some ⟨namespaceName, ← metadata.entry "name"⟩
  else ownerKey object

end AppOperator
