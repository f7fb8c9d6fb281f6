import AppOperator.Command.Arguments
import AppOperator.Command.Help
import AppOperator.Declaration

/-!
# The commands

The group of commands that a person has, and what the arguments of each command
ask for.  A `Task` is what is left to do when its arguments have been found in
order.
-/

set_option autoImplicit false

namespace AppOperator.Command

namespace Options

def server : OptionSpec := ⟨["--server"], .text, "API server URL", none⟩

def token : OptionSpec := ⟨["--token"], .text, "Bearer token", none⟩

def insecure : OptionSpec :=
  ⟨["--insecure-skip-tls-verify"], .flag, "Skip TLS certificate checks", none⟩

def name : OptionSpec := ⟨["--name"], .text, "Application name", some "required"⟩

def image : OptionSpec := ⟨["--image"], .text, "Container image", some "required"⟩

def replicas : OptionSpec := ⟨["--replicas"], .whole, "", some "default: 1"⟩

def containerPort : OptionSpec := ⟨["--container-port"], .whole, "", some "required"⟩

def servicePort : OptionSpec := ⟨["--service-port"], .whole, "", some "default: 80"⟩

def inNamespace : OptionSpec := ⟨["--namespace", "-n"], .text, "", some "default: default"⟩

def onlyNamespace : OptionSpec := ⟨["--namespace", "-n"], .text, "Limit to one namespace", none⟩

def output : OptionSpec := ⟨["--output", "-o"], .choice ["table", "json", "yaml"], "", none⟩

def yes : OptionSpec := ⟨["--yes"], .flag, "Confirm the action without prompting.", none⟩

end Options

def fileLabel : String := "FILENAME"

def nameLabel : String := "NAME"

def deployCommand : CommandSpec where
  name := "deploy"
  summary := "Render a SimpleApp from its fields and submit it"
  argument := none
  options := [Options.name, Options.image, Options.replicas, Options.containerPort,
    Options.servicePort, Options.inNamespace]

def applyCommand : CommandSpec where
  name := "apply"
  summary := "Apply a SimpleApp from a YAML/JSON file"
  argument := some fileLabel
  options := []

def listCommand : CommandSpec where
  name := "list"
  summary := "List SimpleApps in all namespaces"
  argument := none
  options := [Options.output, Options.onlyNamespace]

def deleteCommand : CommandSpec where
  name := "delete"
  summary := "Delete a SimpleApp (its dependents are garbage collected)"
  argument := some nameLabel
  options := [Options.inNamespace, Options.yes]

def validateCommand : CommandSpec where
  name := "validate"
  summary := "Validate a SimpleApp document without submitting it"
  argument := some fileLabel
  options := []

/-- The commands in the order in which the help shows them. -/
def commands : List CommandSpec :=
  [applyCommand, deleteCommand, deployCommand, listCommand, validateCommand]

/-- The options in front of the command. -/
def group : CommandSpec where
  name := programName
  summary := "SimpleApp CLI - kubectl-like interface for SimpleApp declarations"
  argument := none
  options := [Options.server, Options.token, Options.insecure]

/-- The form in which declarations are listed. -/
inductive ListForm where
  | table
  | json
  | yaml
deriving DecidableEq, Repr

def ListForm.ofName (name : String) : ListForm :=
  if name == "json" then .json else if name == "yaml" then .yaml else .table

/-- What a command has been asked to do. -/
inductive Task where
  | deploy (declaration : NewDeclaration)
  | apply (file : String)
  | list (form : ListForm) (namespaceName : Option String)
  | delete (namespaceName name : String) (confirmed : Bool)
  | validate (file : String)

/-- A task, and the words that nothing was made of. -/
structure Parsed where
  task : Task
  extra : List String

/-- The check of every option and of the argument, and what they ask for. -/
structure Reading where
  checks : List (String × Option UsageFault)
  task : Except UsageFault Task

namespace Reading

/-- What a person wrote stands in a declaration without spaces at its ends. -/
def deploy (a : Arguments) : Reading :=
  let name := a.nonEmpty Options.name
  let image := a.nonEmpty Options.image
  let replicas := Arguments.whole Options.replicas ((a.value? "--replicas").getD "1")
  let containerPort := a.required Options.containerPort >>= Arguments.whole Options.containerPort
  let servicePort := Arguments.whole Options.servicePort ((a.value? "--service-port").getD "80")
  let namespaceName := Text.trim ((a.value? "--namespace").getD defaultNamespace)
  { checks :=
      [("--name", faultIn name), ("--image", faultIn image), ("--replicas", faultIn replicas),
        ("--container-port", faultIn containerPort), ("--service-port", faultIn servicePort)]
    task := do
      return .deploy {
        name := .str (Text.trim (← name))
        image := .str (Text.trim (← image))
        containerPort := .int (← containerPort)
        replicas := .int (← replicas)
        servicePort := .int (← servicePort)
        namespaceName :=
          .str (if namespaceName == "" then defaultNamespace else namespaceName) } }

def file (exists? : String → Bool) (make : String → Task) (a : Arguments) : Reading :=
  let name : Except UsageFault String := do
    let name ← a.argument fileLabel
    if !exists? name then
      throw (.invalid ("'" ++ fileLabel ++ "'") ("Path " ++ Text.quoted name ++ " does not exist."))
    return name
  { checks := [(fileLabel, faultIn name)], task := name.map make }

def list (a : Arguments) : Reading :=
  let form := Arguments.chosen Options.output ((a.value? "--output").getD "table")
  { checks := [("--output", faultIn form)]
    task := form.map fun form => .list (.ofName form) (a.value? "--namespace") }

def delete (a : Arguments) : Reading :=
  let name := a.argument nameLabel
  { checks := [(nameLabel, faultIn name)]
    task := name.map fun name =>
      .delete ((a.value? "--namespace").getD defaultNamespace) name (a.isGiven "--yes") }

/-- What the arguments of a command ask for. -/
def of (command : CommandSpec) (exists? : String → Bool) (a : Arguments) : Reading :=
  if command.name == "deploy" then deploy a
  else if command.name == "apply" then file exists? .apply a
  else if command.name == "list" then list a
  else if command.name == "delete" then delete a
  else file exists? .validate a

end Reading

/-- What the arguments of a command ask for; none if they ask for help. -/
def parse (command : CommandSpec) (exists? : String → Bool) (arguments : List String) :
    Except UsageFault (Option Parsed) := do
  let a ← Arguments.read (command.options ++ [helpOption]) true arguments
  if a.isGiven helpOption.key then return none
  let reading := Reading.of command exists? a
  match a.firstFault command.argument reading.checks with
  | some fault => throw fault
  | none => return some ⟨← reading.task, a.words.drop command.argument.toList.length⟩

end AppOperator.Command
