import AppOperator.Number.Reading
import AppOperator.Text.Control

/-!
# Columns of a table

The cells of a column are documents.  What all of them have in common decides
how the column is written: a column of numbers, written as numbers or as text,
is lined up at the decimal point, every other column at its left edge.  A cell
that is empty says nothing about its column.

Only what is shown of a text counts; in a styled table, one with something in it that
is not shown, a number is changed where it stands in its text.
-/

set_option autoImplicit false

namespace AppOperator.Table

/-- What a cell holds; each kind stands for itself and those before it. -/
inductive CellKind where
  | empty
  | truth
  | whole
  | number
  | text
deriving DecidableEq, Repr

namespace CellKind

def rank : CellKind → Nat
  | .empty => 0
  | .truth => 1
  | .whole => 2
  | .number => 3
  | .text => 4

def join (a b : CellKind) : CellKind :=
  if b.rank ≤ a.rank then a else b

/-- Columns of this kind are lined up at the decimal point. -/
def isNumeric : CellKind → Bool
  | .whole | .number => true
  | _ => false

end CellKind

/-- Groups of three digits behind commas. -/
def groupsOfThree : List Char → List Char
  | ',' :: a :: b :: c :: rest =>
      if a.isDigit && b.isDigit && c.isDigit then groupsOfThree rest else ',' :: a :: b :: c :: rest
  | cs => cs

/-- A number whose whole part may be grouped by commas, without an exponent; one
line feed may follow, and before it there need not be anything. -/
def isGrouped (s : String) : Bool :=
  let cs := if s.toList.getLast? == some '\n' then s.toList.dropLast else s.toList
  let body := if cs.head? == some '-' || cs.head? == some '+' then cs.drop 1 else cs
  let whole := (body.takeWhile Char.isDigit).take 3
  let isFraction (least : Nat) (rest : List Char) : Bool :=
    match rest with
    | [] => true
    | point :: digits => point == '.' && digits.length ≥ least && digits.all Char.isDigit
  if whole.isEmpty then isFraction 1 cs else isFraction 0 (groupsOfThree (body.drop whole.length))

/-- A text that reads as a number, one of the three words for what is not finite included. -/
def isNumeral (s : String) : Bool :=
  match Reading.float? s with
  | none => false
  | some x => x.isFinite || ["-inf", "inf", "nan"].contains (String.ofList (s.toList.map Char.toLower))

def CellKind.ofShown (s : String) : CellKind :=
  if s == "" then .empty
  else if s == "True" || s == "False" then .truth
  else if (Reading.int? s).isSome || (isGrouped s && !s.toList.contains '.') then .whole
  else if isNumeral s || isGrouped s then .number
  else .text

def CellKind.ofText (s : String) : CellKind :=
  .ofShown (String.ofList (Text.visible s.toList))

def CellKind.ofCell : Json → CellKind
  | .null => .empty
  | .bool _ => .truth
  | .int _ => .whole
  | .float _ => .number
  | .str s => .ofText s
  | .arr _ => .text
  | .obj _ => .text

def columnKind (cells : List Json) : CellKind :=
  cells.foldl (fun kind cell => kind.join (.ofCell cell)) .truth

/-- Numbers in a column that holds fractions have six significant digits. -/
def numberText (x : Binary64) : String :=
  Decimal.significant 6 x

/-- The number that a cell of a column of numbers is, if it is not a text. -/
def cellNumber : Json → Except Fault Binary64
  | .bool b => .ok (.ofInt (if b then 1 else 0))
  | .int n =>
      let x := Binary64.ofInt n
      if x.isFinite then .ok x else .error .tooLarge
  | .float x => .ok x
  | other => .error (.noNumberedEntry other.shape)

/-- A text in a column of numbers: the number that it writes, or the text itself where
it writes none, as the words for truth values do.  Commas are left out in a table that
is not styled. -/
def numeralText (styled : Bool) (s : String) : String :=
  let cs := s.toList
  let numeral := if styled then Text.visible cs else cs.filter (· != ',')
  match Reading.float? (String.ofList numeral) with
  | none => s
  | some x =>
      let written := (numberText x).toList
      String.ofList (if styled then Text.replaceAll numeral written cs else written)

/-- Characters that begin with a style of one parameter, plain digits and something
that is not plain, with the digits as the number is written. -/
def painted? (cs : List Char) : Option (List Char) :=
  match cs with
  | esc :: '[' :: rest =>
      let parameter := rest.takeWhile Char.isDigit
      match rest.drop parameter.length with
      | final :: rest =>
          let digits := rest.takeWhile fun c => c.isDigit || c == '.'
          let after := rest.drop digits.length
          let plain := after.head?.all fun c => ' ' ≤ c && c ≤ '~' && c != '\\'
          if esc == Text.escape && !parameter.isEmpty && (final == 'm' || final == 'M')
              && !digits.isEmpty && digits.all Char.isDigit && !plain then
            some (esc :: '[' :: parameter ++ final :: (Decimal.natText (Json.digitsValue digits)).toList
              ++ after)
          else none
      | [] => none
  | _ => none

/-- The characters from the first painted number on. -/
def fromPainted? : List Char → Option (List Char)
  | [] => none
  | c :: rest => (painted? (c :: rest)).or (fromPainted? rest)

/-- A text in a column of whole numbers, from its first painted number on if it has one. -/
def wholeText (cs : List Char) : List Char :=
  (fromPainted? cs).getD cs

def cellText (styled : Bool) (kind : CellKind) (cell : Json) : Except Fault String :=
  match cell, kind with
  | .null, _ => .ok ""
  | .str s, .number => .ok (numeralText styled s)
  | .str s, .whole => .ok (String.ofList (wholeText s.toList))
  | other, .number => (cellNumber other).map numberText
  | other, _ => .ok other.spoken

/-- How many characters follow the decimal point; a number without one counts one less than none. -/
def placesBehindPoint (s : String) : Int :=
  if !isNumeral s && !isGrouped s then -1
  else if (Reading.int? s).isSome then -1
  else
    let behind (mark : Char → Bool) : Option Int :=
      let tail := s.toList.reverse.takeWhile fun c => !mark c
      if tail.length == s.length then none else some tail.length
    ((behind (· == '.')).or (behind fun c => c == 'e' || c == 'E')).getD (-1)

/-- What counts for the width of a line. -/
def shown (styled : Bool) (line : List Char) : List Char :=
  if styled then Text.visible line else line

/-- The texts of a column, ready to be filled up on the side that its kind asks for. -/
def columnTexts (styled : Bool) (kind : CellKind) (cells : List Json) :
    Except Fault (List String) := do
  let texts ← cells.mapM (cellText styled kind)
  if kind.isNumeric then
    let places (text : String) : Int :=
      placesBehindPoint (String.ofList (shown styled text.toList))
    let most := (texts.map places).foldl max (-1)
    return texts.map fun text =>
      text ++ String.ofList (List.replicate (most - places text).toNat ' ')
  else return texts.map Text.trim

end AppOperator.Table
