import AppOperator.Fault

/-!
# Kinds of resources and their paths

A kind of resource has a version, a name and a plural; requests address it by
a path.  `ResourceKind.segments` is the path as a list, the form in which paths
can be compared; an empty name counts as no name.
-/

set_option autoImplicit false

namespace AppOperator

/-- API coordinates of a kind of resource. -/
structure ResourceKind where
  apiVersion : String
  name : String
  plural : String
deriving DecidableEq, Repr, Inhabited

namespace ResourceKind

def simpleApp : ResourceKind := ⟨"apps.myapp.io/v1", "SimpleApp", "simpleapps"⟩

def deployment : ResourceKind := ⟨"apps/v1", "Deployment", "deployments"⟩

def service : ResourceKind := ⟨"v1", "Service", "services"⟩

def ingress : ResourceKind := ⟨"networking.k8s.io/v1", "Ingress", "ingresses"⟩

/-- The declarations and the kinds they own. -/
def watched : List ResourceKind := [simpleApp, deployment, service, ingress]

def named? (name : String) : Option ResourceKind :=
  watched.find? fun kind => kind.name == name

/-- A part of a path that is there: an empty text is none. -/
def part (text : Option String) : Option String :=
  text.filter (· != "")

/-- What a document contributes to a path. -/
def partOf (x : Json) : Option String :=
  if x.holds then some x.spoken else none

/-- The segments of a request path: the group or the core prefix, the namespace
if there is one, the plural, and the name with its subresource. -/
def segments (kind : ResourceKind) (namespaceName name subresource : Option String) :
    List String :=
  (if kind.apiVersion.contains '/' then ["apis", kind.apiVersion] else ["api", kind.apiVersion])
    ++ (match part namespaceName with
        | some ns => ["namespaces", ns]
        | none => [])
    ++ [kind.plural]
    ++ (match part name with
        | some n => n :: (part subresource).toList
        | none => [])

def path (kind : ResourceKind) (namespaceName name subresource : Option String) : String :=
  String.join ((kind.segments namespaceName name subresource).map ("/" ++ ·))

end ResourceKind

end AppOperator
