import AppOperator.Settings

/-!
# Where a command runs

A command runs in an environment, with a service account, and with whatever its paths
lead to.
-/

set_option autoImplicit false

namespace AppOperator.Command

/-- What stands under a path. -/
inductive StoredFile where
  | directory
  | text (content : String)

/-- Where a command runs; `find?` says what stands under a path. -/
structure Surroundings where
  environment : Environment
  account : ServiceAccount
  find? : String → Option StoredFile

/-- Something stands under a path. -/
def Surroundings.has (s : Surroundings) (path : String) : Bool :=
  (s.find? path).isSome

end AppOperator.Command
