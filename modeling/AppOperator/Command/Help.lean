import AppOperator.Command.Usage

/-!
# Help

The usage line of a command, and the description of what it takes in two
columns.
-/

set_option autoImplicit false

namespace AppOperator.Command

def programName : String := "cli"

def usageLine (path : List String) (isGroup : Bool) (argument : Option String) : String :=
  "Usage: " ++ " ".intercalate (path ++ ["[OPTIONS]"]
    ++ (if isGroup then ["COMMAND", "[ARGS]..."] else []) ++ argument.toList)

/-- Rows in two columns, the second two blanks behind the widest first. -/
def twoColumns (rows : List (String × String)) : String :=
  let width := (rows.map fun row => row.1.length).foldl max 0
  String.join <| rows.map fun (left, right) =>
    if right == "" then "  " ++ left ++ "\n"
    else "  " ++ left ++ String.ofList (List.replicate (width - left.length + 2) ' ') ++ right ++ "\n"

/-- The names of an option, the short ones first, with the label of its value. -/
def OptionSpec.left (o : OptionSpec) : String :=
  let isShort (name : String) : Bool := name.length == 2
  let names := o.names.filter isShort ++ o.names.filter fun name => !isShort name
  ", ".intercalate names ++ (match o.kind.label with
    | some label => " " ++ label
    | none => "")

/-- The description of an option with its remark. -/
def OptionSpec.right (o : OptionSpec) : String :=
  "  ".intercalate ((if o.description == "" then [] else [o.description])
    ++ (o.remark.map fun remark => "[" ++ remark ++ "]").toList)

def help (path : List String) (command : CommandSpec) (commands : List CommandSpec) : String :=
  let isGroup := !commands.isEmpty
  usageLine path isGroup command.argument ++ "\n\n  " ++ command.summary ++ "\n\nOptions:\n"
    ++ twoColumns ((command.options ++ [helpOption]).map fun o => (o.left, o.right))
    ++ (if isGroup then
          "\nCommands:\n" ++ twoColumns (commands.map fun c => (c.name, c.summary))
        else "")

def usageReport (path : List String) (isGroup : Bool) (argument : Option String)
    (fault : UsageFault) : String :=
  (if fault.showsUsage then
      usageLine path isGroup argument ++ "\nTry '" ++ " ".intercalate path
        ++ " --help' for help.\n\n"
    else "")
  ++ "Error: " ++ fault.message ++ "\n"

end AppOperator.Command
