import AppOperator.Text.Blank

/-!
# Route classes

The class that routes use is configured outside the operator and may change
between passes.  It is read once in every pass; a value of spaces only is none.
-/

set_option autoImplicit false

namespace AppOperator

/-- An environment: names of variables and their values, the last one counts. -/
abbrev Environment := List (String × String)

namespace Environment

def get? (env : Environment) (name : String) : Option String :=
  (env.reverse.find? fun setting => setting.1 == name).map (·.2)

def getOr (env : Environment) (name default : String) : String :=
  (get? env name).getD default

/-- The value of a variable that is set to something. -/
def nonEmpty? (env : Environment) (name : String) : Option String :=
  (get? env name).filter (· != "")

def set (env : Environment) (name value : String) : Environment :=
  (env.filter fun setting => setting.1 != name) ++ [(name, value)]

def unset (env : Environment) (name : String) : Environment :=
  env.filter fun setting => setting.1 != name

end Environment

/-- Where the route class is configured. -/
inductive RouteClassSource where
  | fixed (value : Option String)
  | envVariable (name : String) (env : Environment)

namespace RouteClassSource

/-- The variable that holds the class of a deployed operator. -/
def variableName : String := "INGRESS_CLASS_NAME"

def value : RouteClassSource → Option String
  | .fixed value => value
  | .envVariable name env => Environment.get? env name

/-- The class in force: the value without spaces at its ends, none when nothing is left. -/
def resolve (source : RouteClassSource) : Option String :=
  (source.value.map Text.trim).filter (· != "")

/-- Another value, or none, from the same place. -/
def change (source : RouteClassSource) (value : Option String) : RouteClassSource :=
  match source with
  | .fixed _ => .fixed value
  | .envVariable name env =>
      match value with
      | some text => .envVariable name (Environment.set env name text)
      | none => .envVariable name (Environment.unset env name)

end RouteClassSource

end AppOperator
