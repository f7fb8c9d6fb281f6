import AppOperator.Fault
import AppOperator.Text.Digit

/-!
# Numbers in configured values

Numbers that a person writes into a setting: white space around them, a sign,
the digits of any script, and single underscores between digits.  A text that is
no number is a fault which shows the text.
-/

set_option autoImplicit false

namespace AppOperator.Reading

/-- A character with its digit, if it is one, in the usual figures. -/
def plainChar (c : Char) : Char :=
  match Text.digitValue? c with
  | some n => Char.ofNat (48 + n)
  | none => c

/-- A text without white space around it, its digits in the usual figures. -/
def normalized (s : String) : List Char :=
  (Text.trimEnds Text.isWhiteSpace s.toList).map plainChar

/-- A list without underscores, each of which must stand between two digits. -/
def withoutUnderscores? : (beforeDigit : Bool) → List Char → Option (List Char)
  | _, [] => some []
  | afterDigit, '_' :: rest =>
      if afterDigit && (rest.head?.any Char.isDigit) then withoutUnderscores? false rest else none
  | _, c :: rest => (withoutUnderscores? c.isDigit rest).map (c :: ·)

/-- The sign in front of a number and what follows it. -/
def signed (cs : List Char) : Bool × List Char :=
  match cs with
  | '-' :: rest => (true, rest)
  | '+' :: rest => (false, rest)
  | _ => (false, cs)

/-- A whole number, unless it has too many digits. -/
def int? (s : String) : Option Int := do
  let cs ← withoutUnderscores? false (normalized s)
  let (negative, ds) := signed cs
  if ds.isEmpty || !ds.all Char.isDigit || ds.length > Json.mostDigits then none
  else
    let n : Int := Json.digitsValue ds
    return if negative then -n else n

/-- The words for numbers that are not finite. -/
def word? (cs : List Char) : Option (Bool → Binary64) :=
  let lower := String.ofList (cs.map Char.toLower)
  if lower == "inf" || lower == "infinity" then some .infinity
  else if lower == "nan" then some fun _ => .nan
  else none

/-- The power of ten behind the digits: nothing, or a mark, a sign and digits. -/
def exponent? (cs : List Char) : Option Int :=
  match cs with
  | [] => some 0
  | mark :: rest =>
      let (negative, ds) := signed rest
      if (mark == 'e' || mark == 'E') && !ds.isEmpty && ds.all Char.isDigit then
        let n : Int := Json.digitsValue ds
        some (if negative then -n else n)
      else none

def float? (s : String) : Option Binary64 := do
  let cs ← withoutUnderscores? false (normalized s)
  let (negative, body) := signed cs
  match word? body with
  | some make => return make negative
  | none =>
      let whole := body.takeWhile Char.isDigit
      let after := body.dropWhile Char.isDigit
      let (fraction, after) :=
        match after with
        | '.' :: rest => (rest.takeWhile Char.isDigit, rest.dropWhile Char.isDigit)
        | _ => ([], after)
      if whole.isEmpty && fraction.isEmpty then none
      else
        let power ← exponent? after
        return .ofDecimal negative (Json.digitsValue (whole ++ fraction)) (power - fraction.length)

/-- The number of digits that a text begins with, behind white space and a sign; none
where underscores stand among them that do not stand between two digits. -/
def leadingDigits (s : String) : Nat :=
  let run := (signed (normalized s)).2.takeWhile fun c => c.isDigit || c == '_'
  ((withoutUnderscores? false run).getD []).length

/-- How many characters of a text in quotes the fault of a whole number shows. -/
def mostShown : Nat := 200

/-- A text is not a whole number to a base; the fault shows how it begins. -/
def noWhole (base : Nat) (s : String) : Fault :=
  .badValue ("invalid literal for int() with base " ++ Decimal.natText base ++ ": "
    ++ String.ofList ((Text.quotedChars s.toList).take mostShown))

/-- Why a text is not read as a whole number: it begins with too many digits, or it
is no number. -/
def intFault (s : String) : Fault :=
  if leadingDigits s > Json.mostDigits then .badValue (Json.manyDigitsText (leadingDigits s))
  else noWhole 10 s

/-- A whole number, or why there is none. -/
def int (s : String) : Except Fault Int :=
  match int? s with
  | some n => .ok n
  | none => .error (intFault s)

/-- The letter of a mark in front of digits to a base. -/
def baseLetter? (base : Nat) : Option Char :=
  [(2, 'b'), (8, 'o'), (16, 'x')].lookup base

/-- What follows the mark of a base, if it stands there. -/
def behindMark (base : Nat) (cs : List Char) : List Char :=
  match cs with
  | '0' :: letter :: rest => if baseLetter? base == some letter.toLower then rest else cs
  | _ => cs

/-- A whole number to a base that is a power of two, with or without the mark of the
base; any number of digits is read. -/
def intTo (base : Nat) (s : String) : Except Fault Int :=
  let (negative, cs) := signed (normalized s)
  let values := (behindMark base cs).map fun c => (Json.hexValue? c).filter (· < base)
  if values.isEmpty || !values.all (·.isSome) then .error (noWhole base s)
  else
    let n : Int := values.foldl (fun n value => n * base + value.getD 0) 0
    .ok (if negative then -n else n)

/-- A number, or the fault that shows the text. -/
def float (s : String) : Except Fault Binary64 :=
  match float? s with
  | some x => .ok x
  | none => .error (.badValue ("could not convert string to float: " ++ Text.quoted s))

end AppOperator.Reading
