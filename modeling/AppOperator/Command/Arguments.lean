import AppOperator.Command.Usage
import AppOperator.Number.Reading

/-!
# Reading arguments

Arguments are options, long or short, with their values behind them or attached
to them, and words.  Two hyphens end the options.  The options of a group end at
the first word, which names a command.

What is given is checked in the order in which it was given, then the argument,
then what was left out; the first thing wrong is the fault.
-/

set_option autoImplicit false

namespace AppOperator.Command

/-- The options that are given, with their values in order, and the words. -/
structure Arguments where
  given : List (String × String)
  words : List String

/-- What one argument gives: flags, and perhaps an option whose value is attached or follows. -/
structure Opened where
  flags : List String
  valued : Option (OptionSpec × String × Option String)

def optionNamed? (options : List OptionSpec) (name : String) : Option OptionSpec :=
  options.find? fun o => o.names.contains name

def isLong (name : String) : Bool := name.length > 2

/-- An argument before and behind its first equals sign. -/
def atEquals (argument : String) : String × Option String :=
  let cs := argument.toList
  match cs.dropWhile (· != '=') with
  | [] => (argument, none)
  | _ :: value => (String.ofList (cs.takeWhile (· != '=')), some (String.ofList value))

/-- Short options in one argument; what follows one that takes a value is its value. -/
def openShort (options : List OptionSpec) (flags : List String) :
    List Char → Except UsageFault Opened
  | [] => .ok ⟨flags, none⟩
  | c :: rest =>
      let name := String.ofList ['-', c]
      match optionNamed? options name with
      | none => .error (.noSuchOption name [])
      | some o =>
          if o.takesValue then
            .ok ⟨flags, some (o, name, if rest.isEmpty then none else some (String.ofList rest))⟩
          else openShort options (flags ++ [o.key]) rest

/-- An argument that begins with a hyphen. -/
def openOption (options : List OptionSpec) (argument : String) : Except UsageFault Opened :=
  let (name, value) := atEquals argument
  match if isLong name then optionNamed? options name else none with
  | some o =>
      if o.takesValue then .ok ⟨[], some (o, name, value)⟩
      else if value.isSome then .error (.valueRefused name)
      else .ok ⟨[o.key], none⟩
  | none =>
      if "--".toList.isPrefixOf argument.toList then
        .error (.noSuchOption name (Text.closeTo name ((options.flatMap (·.names)).filter isLong)))
      else openShort options [] (argument.toList.drop 1)

/-- An argument is an option and not a word. -/
def isOption (argument : String) : Bool :=
  argument.toList.head? == some '-' && argument.length > 1

namespace Arguments

def withWord (word : String) (a : Arguments) : Arguments := { a with words := word :: a.words }

def withGiven (given : List (String × String)) (a : Arguments) : Arguments :=
  { a with given := given ++ a.given }

/-- Reads arguments; `mixed` says that options may follow words. -/
def read (options : List OptionSpec) (mixed : Bool) : List String → Except UsageFault Arguments
  | [] => .ok ⟨[], []⟩
  | argument :: rest =>
      if argument == "--" then .ok ⟨[], rest⟩
      else if isOption argument then
        match openOption options argument with
        | .error fault => .error fault
        | .ok opened =>
            let flags := opened.flags.map fun key => (key, "")
            match opened.valued with
            | none => (read options mixed rest).map (withGiven flags)
            | some (o, _, some value) =>
                (read options mixed rest).map (withGiven (flags ++ [(o.key, value)]))
            | some (o, name, none) =>
                match rest with
                | [] => .error (.valueExpected name)
                | value :: rest =>
                    (read options mixed rest).map (withGiven (flags ++ [(o.key, value)]))
      else if mixed then (read options mixed rest).map (withWord argument)
      else .ok ⟨[], argument :: rest⟩

/-- The value of an option: the last that is given counts. -/
def value? (a : Arguments) (key : String) : Option String :=
  a.given.reverse.lookup key

def isGiven (a : Arguments) (key : String) : Bool :=
  (a.value? key).isSome

/-- The first thing wrong, in the order in which things are checked; `argument` is
checked behind the options that are given. -/
def firstFault (a : Arguments) (argument : Option String)
    (checks : List (String × Option UsageFault)) : Option UsageFault :=
  let order := a.given.map (·.1) ++ argument.toList
  let first := order.filterMap fun key => checks.lookup key
  let others := (checks.filter fun check => !order.contains check.1).map (·.2)
  (first ++ others).findSome? id

def required (a : Arguments) (o : OptionSpec) : Except UsageFault String :=
  match a.value? o.key with
  | some value => .ok value
  | none => .error (.missingOption o.hint)

/-- The value of an option that has to be given, and not by blanks alone. -/
def nonEmpty (a : Arguments) (o : OptionSpec) : Except UsageFault String := do
  let value ← a.required o
  if Text.trim value == "" then throw (.invalid o.hint "must not be empty")
  return value

/-- The text of an option as a whole number. -/
def whole (o : OptionSpec) (value : String) : Except UsageFault Int :=
  match Reading.int? value with
  | some n => .ok n
  | none => .error (.invalid o.hint (Text.quoted value ++ " is not a valid integer."))

/-- The text of an option as one of its choices. -/
def chosen (o : OptionSpec) (value : String) : Except UsageFault String :=
  match o.kind with
  | .choice names =>
      if names.contains value then .ok value
      else
        .error (.invalid o.hint (Text.quoted value ++ " is not one of "
          ++ ", ".intercalate (names.map Text.quoted) ++ "."))
  | _ => .ok value

/-- The first word, which is the argument of a command. -/
def argument (a : Arguments) (label : String) : Except UsageFault String :=
  match a.words with
  | word :: _ => .ok word
  | [] => .error (.missingArgument label)

end Arguments

def faultIn {α : Type} : Except UsageFault α → Option UsageFault
  | .ok _ => none
  | .error fault => some fault

end AppOperator.Command
