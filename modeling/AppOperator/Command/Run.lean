import AppOperator.Command.Session
import AppOperator.Command.Surroundings
import AppOperator.Command.Task
import AppOperator.Table.Grid
import AppOperator.Text.Lines
import AppOperator.Yaml.Focus
import AppOperator.Yaml.Meaning
import AppOperator.Yaml.Writer

/-!
# Running a command

The arguments in front of the command are read first, then the settings, then
the arguments of the command; each of them can end the run.  A command reads
files, asks for confirmation, sends requests and writes to its console.
-/

set_option autoImplicit false

namespace AppOperator.Command

def noPathCharacter : Char := Char.ofNat 0

inductive Loaded where
  | json (document : Json)
  | yaml (document : Yaml.Document)

def Loaded.submission : Loaded → Except Fault Submission
  | .json document => Submission.ofJson document
  | .yaml document => Submission.ofYaml document

/-- What is wrong with the document as a declaration, if anything is. -/
def Loaded.message? : Loaded → Except Fault (Option String)
  | .json document => .ok (Schema.declaration.message? document)
  | .yaml document => do
      let root : Yaml.Focus := ⟨document, document.root⟩
      for violation in Schema.declaration.violations root do
        if let some subject := violation.subject then document.checkShown subject.value
      return Schema.declaration.message? root

/-- The document in a file, whose name says in which form it is written. -/
def Surroundings.document (s : Surroundings) (name : String) : Except Fault Loaded :=
  if name.contains noPathCharacter then .error (.badValue "embedded null byte") else
  match s.find? name with
  | none => .error .noFile
  | some .directory => .error .directory
  | some (.text content) =>
      if name.endsWith ".yaml" || name.endsWith ".yml" then
        (Yaml.Document.ofText content).map .yaml
      else
        let text := Text.unifyLineBreaks content.toList
        match Json.read text with
        | .ok x => .ok (.json x)
        | .error error => .error (.ofRead error text)

/-- An answer that says something. -/
def required (answer : Option Json) : CommandM Json :=
  match answer.filter Json.holds with
  | some x => pure x
  | none => CommandM.exit 1

def runDeploy (session : Session) (declaration : NewDeclaration) : CommandM Unit := do
  let submission ← CommandM.orFault (Submission.ofJson declaration.render)
  let answer ← required (← session.submit submission)
  CommandM.say ("SimpleApp " ++ declaration.namespaceName.spoken ++ "/" ++ declaration.name.spoken
    ++ " submitted")
  CommandM.say (answer.write .pretty)

def runApply (session : Session) (loaded : Loaded) : CommandM Unit := do
  let answer ← required (← session.submit (← CommandM.orFault loaded.submission))
  let metadata ← CommandM.orFault (answer.fieldOr "metadata" (.obj []))
  CommandM.say "SimpleApp applied successfully!"
  let line (label field : String) : CommandM Unit := do
    CommandM.say (label ++ ": " ++ (← CommandM.orFault (metadata.fieldOr field .null)).spoken)
  line "Name" "name"
  line "Namespace" "namespace"
  line "Resource Version" "resourceVersion"

def headings : List String := ["Namespace", "Name", "Image", "Replicas", "Ready", "Ports"]

def tableRow (item : Json) : Except Fault (List Json) := do
  let metadata ← item.fieldOr "metadata" (.obj [])
  let spec ← item.fieldOr "spec" (.obj [])
  let status := (← item.fieldOr "status" .null).orElse (.obj [])
  let namespaceName ← metadata.fieldOr "namespace" (.str "")
  let name ← metadata.fieldOr "name" (.str "")
  let image ← spec.fieldOr "image" (.str "")
  let replicas ← spec.fieldOr "replicas" (.int 1)
  let ready ← status.fieldOr "readyReplicas" (.int 0)
  let servicePort ← spec.fieldOr "servicePort" (.int 80)
  let containerPort ← spec.fieldOr "containerPort" (.str "")
  return [namespaceName, name, image, replicas, ready,
    .str (servicePort.spoken ++ "->" ++ containerPort.spoken)]

def tableOf (items : Json) : Except Fault String := do
  match Declaration.partsOf? items with
  | none => throw (.noNumberedEntry items.shape)
  | some items => Table.grid headings (← items.mapM tableRow)

def runList (session : Session) (form : ListForm) (namespaceName : Option String) :
    CommandM Unit := do
  match ← session.list namespaceName with
  | none => CommandM.exit 1
  | some items =>
      match form with
      | .json => CommandM.say (items.write .pretty)
      | .yaml => CommandM.say (Yaml.write items)
      | .table =>
          if items.holds then CommandM.say (← CommandM.orFault (tableOf items))
          else CommandM.say "No SimpleApps found"

/-- The answers to a yes-or-no question, one to a line: what is written meanwhile,
the answer if there is one, and the lines that are left.  An empty line means no. -/
def answered (question : String) : List String → String × Option Bool × List String
  | [] => (question, none, [])
  | line :: rest =>
      let shown := question ++ line ++ "\n"
      let word := String.ofList ((Text.trim line).toList.map Char.toLower)
      if word == "y" || word == "yes" then (shown, some true, rest)
      else if word == "n" || word == "no" || word == "" then (shown, some false, rest)
      else
        let (more, answer, left) := answered question rest
        (shown ++ "Error: invalid input\n" ++ more, answer, left)

/-- Asks until there is an answer; without a yes the command is given up. -/
def confirm (question : String) : CommandM Unit := do
  let (shown, answer, left) := answered (question ++ " [y/N]: ") (← get).input
  modify fun console => { console with input := left }
  CommandM.put shown
  if answer != some true then
    CommandM.complain "Aborted!\n"
    CommandM.exit 1

def runDelete (session : Session) (namespaceName name : String) : CommandM Unit := do
  discard (required (← session.delete namespaceName name))
  CommandM.say ("SimpleApp " ++ namespaceName ++ "/" ++ name ++ " deleted")

def runValidate (file : String) (loaded : Loaded) : CommandM Unit := do
  match ← CommandM.orFault loaded.message? with
  | none => CommandM.say (file ++ " is a valid SimpleApp")
  | some message =>
      CommandM.complain (file ++ " is invalid:\n")
      CommandM.complain
        (String.join ((Schema.messageParts message).map fun part => "  - " ++ part ++ "\n"))
      CommandM.exit 1

def perform (s : Surroundings) (session : Session) : Task → CommandM Unit
  | .deploy declaration => runDeploy session declaration
  | .apply file => do runApply session (← CommandM.orFault (s.document file))
  | .list form namespaceName => runList session form namespaceName
  | .delete namespaceName name _ => runDelete session namespaceName name
  | .validate file => do runValidate file (← CommandM.orFault (s.document file))

/-- Ends the run with the report of a usage fault. -/
def refuse {α : Type} (path : List String) (isGroup : Bool) (argument : Option String)
    (fault : UsageFault) : CommandM α := do
  CommandM.complain (usageReport path isGroup argument fault)
  CommandM.exit 2

/-- A task that needs a yes gets it before anything else is done. -/
def confirmed (task : Task) : CommandM Unit :=
  match task with
  | .delete _ _ false => confirm "Are you sure you want to delete this SimpleApp?"
  | _ => pure ()

def runCommand (s : Surroundings) (session : Session) (command : CommandSpec)
    (arguments : List String) : CommandM Unit := do
  let path := [programName, command.name]
  match parse command (fun name => s.has name || name.contains noPathCharacter) arguments with
  | .error fault => refuse path false command.argument fault
  | .ok none => CommandM.write (help path command [])
  | .ok (some parsed) =>
      confirmed parsed.task
      if parsed.extra.isEmpty then perform s session parsed.task
      else refuse path false command.argument (.unexpected parsed.extra)

/-- The session that the settings and the options in front of the command ask for.
What is given empty counts as not given. -/
def sessionFor (s : Surroundings) (a : Arguments) : Except Fault Session := do
  let settings ← ClusterSettings.ofEnvironment s.environment s.account
  let given (key : String) : Option String := (a.value? key).filter (· != "")
  return .ofSettings { settings with
    apiUrl := (given "--server").getD settings.apiUrl
    token := (given "--token").or settings.token
    verifySsl := settings.verifySsl && !a.isGiven "--insecure-skip-tls-verify" }

/-- The options in front of the command, and the command with its arguments. -/
def readGroup (arguments : List String) : Except UsageFault Arguments :=
  Arguments.read (group.options ++ [helpOption]) false arguments

/-- Runs the command that the arguments name. -/
def run (s : Surroundings) (arguments : List String) : CommandM Unit := do
  let path := [programName]
  let groupHelp := help path group commands
  if arguments.isEmpty then
    CommandM.complain groupHelp
    CommandM.exit 2
  match readGroup arguments with
  | .error fault => refuse path true none fault
  | .ok a =>
      if a.isGiven helpOption.key then CommandM.write groupHelp
      else
        match a.words with
        | [] => refuse path true none .missingCommand
        | word :: rest =>
            match commands.find? fun command => command.name == word with
            | some command =>
                let session ← CommandM.orFault (sessionFor s a)
                runCommand s session command rest
            | none =>
                match readGroup (word :: rest) with
                | .error fault => refuse path true none fault
                | .ok again =>
                    if again.isGiven helpOption.key then CommandM.write groupHelp
                    else
                      refuse path true none
                        (.noSuchCommand word (Text.closeTo word (commands.map CommandSpec.name)))

structure Report where
  code : Nat
  out : String
  err : String
  fault : Option Fault

/-- Runs a command on the lines that it can read.  Every line that it has written ends
in a line feed alone. -/
def report (s : Surroundings) (arguments : List String) (input : List String) :
    Dialogue SessionRequest (Except TransportFault HttpResponse) Report := do
  let (ending, console) ← (run s arguments).run ⟨input, "", ""⟩
  let (code, fault) : Nat × Option Fault :=
    match ending with
    | .ok _ => (0, none)
    | .error (.exit code) => (code, none)
    | .error (.fault fault) => (1, some fault)
  let written (text : String) : String := String.ofList (Text.withoutCarriage text.toList)
  return ⟨code, written console.out, written console.err, fault⟩

end AppOperator.Command
