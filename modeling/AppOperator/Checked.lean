import AppOperator.Fault

/-!
# Checked fields

Reading a model from a record checks every field and keeps all that is wrong,
in the order of the fields.  Whole numbers are read generously: truth values,
numbers without a fraction, and texts that write a whole number are accepted.
-/

set_option autoImplicit false

namespace AppOperator

/-- A value, or all that is wrong with the fields it is read from. -/
abbrev Checked (α : Type) := Except (List FieldError) α

namespace Checked

def fail {α : Type} (path : List String) (cause : FieldCause) : Checked α :=
  .error [⟨path, cause⟩]

/-- Both values, or what is wrong with the first followed by what is wrong with the second. -/
def both {α β : Type} (a : Checked α) (b : Checked β) : Checked (α × β) :=
  match a, b with
  | .ok a, .ok b => .ok (a, b)
  | .error es, .ok _ => .error es
  | .ok _, .error es => .error es
  | .error es, .error fs => .error (es ++ fs)

/-- Puts the name of an enclosing field in front of every path. -/
def within {α : Type} (name : String) (a : Checked α) : Checked α :=
  a.mapError fun errors => errors.map fun e => { e with path := name :: e.path }

/-- The digits behind leading zeros, among which underscores may stand; the last of
the zeros stays when nothing or a point follows.  A minus sign ends the zeros. -/
def behindZeros? (last : Char) : List Char → Option (List Char)
  | [] => some [last]
  | c :: rest =>
      if c == '0' || c == '_' then behindZeros? c rest
      else if c.isDigit || c == '-' then some (c :: rest)
      else if c == '.' then some (last :: c :: rest)
      else none

/-- The digits of a number without the zeros in front of them. -/
def withoutZeros? : List Char → Option (List Char)
  | [] => none
  | c :: rest =>
      if c == '0' then behindZeros? c rest
      else if c.isDigit || c == '-' then some (c :: rest)
      else none

/-- A number without a point and the zeros behind it. -/
def withoutFraction (cs : List Char) : List Char :=
  let zeros := (cs.dropWhile (· != '.')).drop 1
  if !zeros.isEmpty && zeros.all (· == '0') then cs.takeWhile (· != '.') else cs

/-- A number without its underscores, which stand alone and between other characters. -/
def withoutGroups? (cs : List Char) : Option (List Char) :=
  if cs.head? == some '_' || cs.getLast? == some '_'
      || (cs.zip (cs.drop 1)).any (fun pair => pair.1 == '_' && pair.2 == '_') then none
  else some (cs.filter (· != '_'))

/-- What is left of a text that writes a whole number: a minus sign, if there is
one, and digits. -/
def bareWhole? (s : String) : Option (List Char) := do
  let body := Text.trimEnds Text.isWhiteSpace s.toList
  let body ←
    match body with
    | '+' :: '-' :: _ => none
    | '+' :: rest => some rest
    | _ => some body
  let number ←
    match body with
    | '-' :: rest => (withoutZeros? rest).map ('-' :: ·)
    | _ => withoutZeros? body
  withoutGroups? (withoutFraction number)

/-- The longest number that is read, its sign included. -/
def longestWhole : Nat := 4300

/-- The whole number that a text writes: white space at its ends, a sign, zeros,
single underscores between digits, and a point followed by zeros are allowed. -/
def wholeOfText (s : String) : Except FieldCause Int :=
  match bareWhole? s with
  | none => .error .unreadableWhole
  | some cs =>
      let negative := cs.head? == some '-'
      let digits := if negative then cs.drop 1 else cs
      let run := (digits.takeWhile Char.isDigit).length + (if negative then 1 else 0)
      if digits == ['0'] then .ok 0
      else if digits.isEmpty || digits.head? == some '0' then .error .unreadableWhole
      else if run > longestWhole then .error .longWhole
      else if !digits.all Char.isDigit then .error .unreadableWhole
      else
        let n : Int := Json.digitsValue digits
        .ok (if negative then -n else n)

/-- The whole number that a number without a fraction is, when 64 bits hold it. -/
def wholeOfNumber (x : Binary64) : Except FieldCause Int :=
  if !x.isFinite then .error .notFinite
  else
    match x.toInt? with
    | none => .error .fractional
    | some n => if n.natAbs < 9223372036854775808 then .ok n else .error .longWhole

def whole (path : List String) : Json → Checked Int
  | .int n => .ok n
  | .bool b => .ok (if b then 1 else 0)
  | .float x => (wholeOfNumber x).mapError fun cause => [⟨path, cause⟩]
  | .str s => (wholeOfText s).mapError fun cause => [⟨path, cause⟩]
  | _ => fail path .notWhole

/-- A whole number from one on. -/
def positive (path : List String) (x : Json) : Checked Int := do
  let n ← whole path x
  if n < 1 then fail path .belowOne else return n

def port (path : List String) (x : Json) : Checked Int := do
  let n ← positive path x
  if n > 65535 then fail path .abovePorts else return n

def text (path : List String) : Json → Checked String
  | .str s => .ok s
  | _ => fail path .notText

def nonEmptyText (path : List String) (x : Json) : Checked String := do
  let s ← text path x
  if s == "" then fail path .emptyText else return s

/-- A text, or null for none. -/
def optionalText (path : List String) : Json → Checked (Option String)
  | .null => .ok none
  | x => (text path x).map some

def fieldsOf (path : List String) : Json → Checked Fields
  | .obj fields => .ok fields
  | _ => fail path .notRecord

/-- A field under its first name that is present; the path of an error names it.
A field that is absent has the default, or is missing under its first name. -/
def field {α : Type} (fields : Fields) (names : List String)
    (check : List String → Json → Checked α) (default : Option α) : Checked α :=
  match names.find? fun name => (Fields.get? fields name).isSome with
  | some name => check [name] ((Fields.get? fields name).getD .null)
  | none =>
      match default with
      | some value => .ok value
      | none => fail (names.take 1) .missing

/-- The fields of a model: the document must be a record. -/
def model {α : Type} (name : String) (x : Json) (check : Fields → Checked α) : Checked α :=
  match x with
  | .obj fields => check fields
  | _ => fail [] (.notModel name)

/-- The outcome as a fault of the model. -/
def orFault {α : Type} (model : String) (a : Checked α) : Except Fault α :=
  a.mapError fun errors => .invalid ⟨model, errors⟩

end Checked

end AppOperator
