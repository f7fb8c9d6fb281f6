import AppOperator.Resource
import AppOperator.Dialogue

/-!
# Calls to a cluster

What the operator asks of a cluster about single objects.  Every call is
answered with a document or a fault.
-/

set_option autoImplicit false

namespace AppOperator

inductive Operation where
  | get
  | create
  | update
  | updateStatus
  | delete
  | list
  | watch
deriving DecidableEq, Repr

namespace Operation

def name : Operation → String
  | .get => "get"
  | .create => "create"
  | .update => "update"
  | .updateStatus => "update_status"
  | .delete => "delete"
  | .list => "list"
  | .watch => "watch"

def all : List Operation := [.get, .create, .update, .updateStatus, .delete, .list, .watch]

def named? (text : String) : Option Operation :=
  all.find? fun operation => operation.name == text

def isMutating : Operation → Bool
  | .create | .update | .updateStatus | .delete => true
  | .get | .list | .watch => false

end Operation

/-- A call about one object. -/
inductive ClientCall where
  | get (kind : ResourceKind) (namespaceName name : Json)
  | create (kind : ResourceKind) (object : Json)
  | update (kind : ResourceKind) (object : Json)
  | updateStatus (kind : ResourceKind) (object : Json)
  | delete (kind : ResourceKind) (namespaceName name : Json)
deriving DecidableEq

namespace ClientCall

def operation : ClientCall → Operation
  | .get .. => .get
  | .create .. => .create
  | .update .. => .update
  | .updateStatus .. => .updateStatus
  | .delete .. => .delete

def kind : ClientCall → ResourceKind
  | .get kind _ _ => kind
  | .create kind _ => kind
  | .update kind _ => kind
  | .updateStatus kind _ => kind
  | .delete kind _ _ => kind

end ClientCall

abbrev Reply := Except Fault Json

/-- A computation over calls to a cluster. -/
abbrev ClientM (α : Type) := Dialogue ClientCall Reply α

end AppOperator
