import AppOperator.Text.Quoted
import AppOperator.Text.Similar

/-!
# Options and their usage

What a command takes is declared as data: options with their names, the kind of
their values and what is said about them, and at most one argument.  Arguments
that do not fit are a `UsageFault`, worded in `UsageFault.message`.
-/

set_option autoImplicit false

namespace AppOperator.Command

inductive ValueKind where
  | text
  | whole
  | choice (names : List String)
  /-- the option stands for itself -/
  | flag
deriving DecidableEq, Repr

/-- How the value of an option stands in a description. -/
def ValueKind.label : ValueKind → Option String
  | .text => some "TEXT"
  | .whole => some "INTEGER"
  | .choice names => some ("[" ++ "|".intercalate names ++ "]")
  | .flag => none

/-- An option; the first of its names stands for it. -/
structure OptionSpec where
  names : List String
  kind : ValueKind
  description : String
  /-- what is said about it in brackets -/
  remark : Option String

namespace OptionSpec

def key (o : OptionSpec) : String := o.names.headD ""

def takesValue (o : OptionSpec) : Bool := o.kind != .flag

/-- All names of the option, as messages show them. -/
def hint (o : OptionSpec) : String :=
  " / ".intercalate (o.names.map Text.quoted)

end OptionSpec

/-- The option that every command has. -/
def helpOption : OptionSpec := ⟨["--help"], .flag, "Show this message and exit.", none⟩

structure CommandSpec where
  name : String
  summary : String
  argument : Option String
  options : List OptionSpec

/-- Why arguments do not fit. -/
inductive UsageFault where
  | noSuchOption (name : String) (near : List String)
  | noSuchCommand (name : String) (near : List String)
  /-- an option at the end of the arguments -/
  | valueExpected (name : String)
  /-- a flag with a value -/
  | valueRefused (name : String)
  | missingOption (hint : String)
  | missingArgument (label : String)
  | missingCommand
  | invalid (hint reason : String)
  | unexpected (words : List String)
deriving DecidableEq, Repr

namespace UsageFault

/-- What was meant, perhaps. -/
def suggestion : List String → String
  | [] => ""
  | [one] => " Did you mean " ++ Text.quoted one ++ "?"
  | several =>
      " (Did you mean one of: "
        ++ ", ".intercalate ((several.mergeSort fun a b => !(b < a)).map Text.quoted) ++ "?)"

def message : UsageFault → String
  | .noSuchOption name near => "No such option " ++ Text.quoted name ++ "." ++ suggestion near
  | .noSuchCommand name near => "No such command " ++ Text.quoted name ++ "." ++ suggestion near
  | .valueExpected name => "Option " ++ Text.quoted name ++ " requires an argument."
  | .valueRefused name => "Option " ++ Text.quoted name ++ " does not take a value."
  | .missingOption hint => "Missing option " ++ hint ++ "."
  | .missingArgument label => "Missing argument '" ++ label ++ "'."
  | .missingCommand => "Missing command."
  | .invalid hint reason => "Invalid value for " ++ hint ++ ": " ++ reason
  | .unexpected [word] => "Got unexpected extra argument (" ++ word ++ ")"
  | .unexpected words => "Got unexpected extra arguments (" ++ " ".intercalate words ++ ")"

/-- A fault in the form of one option says nothing about the command. -/
def showsUsage : UsageFault → Bool
  | .valueExpected _ | .valueRefused _ => false
  | _ => true

end UsageFault

end AppOperator.Command
