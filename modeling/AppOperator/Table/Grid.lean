import AppOperator.Table.Column
import AppOperator.Text.Lines

/-!
# Tables in a grid

A table with a line around every cell and a double line below the headings.
Every column is as wide as its widest line, and at least two characters wider
than its heading; texts with line breaks make their row as high as they are.  A row
that begins with a separator is drawn as a line.
-/

set_option autoImplicit false

namespace AppOperator.Table

/-- A column ready to be drawn: every cell as lines of one width. -/
structure Column where
  heading : List Char
  width : Nat
  cells : List (List (List Char))

/-- Fills a line up to a width, at the front or at the end. -/
def fill (atFront : Bool) (width : Nat) (line : List Char) : List Char :=
  let blanks := List.replicate (width - line.length) ' '
  if atFront then blanks ++ line else line ++ blanks

/-- The pieces between line breaks, of which every one has a width. -/
def pieces (text : List Char) : List (List Char) :=
  Text.splitOnChar '\n' (text.map fun c => if c == '\r' then '\n' else c)

def isTall (cell : Json) : Bool :=
  match cell with
  | .str s => s.toList.any fun c => c == '\n' || c == '\r'
  | _ => false

/-- How a table is drawn: whether it has cells that break their lines, and whether it
has something in it that is not shown. -/
structure Drawing where
  tall : Bool
  styled : Bool

namespace Drawing

/-- The drawing that a table needs. -/
def of (headings : List String) (rows : List (List Json)) : Drawing where
  tall := rows.any fun row => row.any isTall
  styled :=
    let texts := headings ++ rows.flatMap fun row => row.map Json.spoken
    Text.hasControl ("\t".intercalate texts).toList

/-- The parts of a text of which every one has a width. -/
def measured (d : Drawing) (text : List Char) : List (List Char) :=
  if d.tall then pieces text else [text]

/-- The lines of a cell; only in a table with tall cells is a text cut at all. -/
def cellLines (d : Drawing) (text : List Char) : List (List Char) :=
  if d.tall then Text.linesOf text else [text]

/-- The lines of a cell filled up to a width.  In a styled table each line gets in
addition what is not shown of the part of the text with its number. -/
def filled (d : Drawing) (atFront : Bool) (width : Nat) (text : List Char) : List (List Char) :=
  if d.styled then
    ((d.cellLines text).zip (d.measured text)).map fun (line, part) =>
      fill atFront (width + (part.length - (shown true part).length)) line
  else (d.cellLines text).map (fill atFront width)

end Drawing

def Column.of (d : Drawing) (heading : String) (cells : List Json) : Except Fault Column := do
  let kind := columnKind cells
  let texts := (← columnTexts d.styled kind cells).map String.toList
  let widest (lines : List (List Char)) : Nat :=
    (lines.map fun line => (shown d.styled line).length).foldl max 0
  let least := heading.length + 2
  let width := (texts.map fun text => widest (d.measured text)).foldl max least
  let cells := texts.map (d.filled kind.isNumeric width)
  let width := (cells.map widest).foldl max least
  return { heading := fill kind.isNumeric width heading.toList, width := width, cells := cells }

def rule (stroke : Char) (columns : List Column) : String :=
  "+" ++ "+".intercalate
    (columns.map fun column => String.ofList (List.replicate (column.width + 2) stroke)) ++ "+"

/-- One line of a row between its strokes. -/
def rowLine (texts : List (List Char)) : String :=
  "|" ++ "|".intercalate (texts.map fun text => String.ofList (' ' :: text ++ [' '])) ++ "|"

/-- The lines of a row; a cell that is less high than its row ends in blank lines. -/
def rowLines (columns : List Column) (index : Nat) : List String :=
  let cells := columns.map fun column => (column.width, column.cells.getD index [])
  let height := (cells.map fun cell => cell.2.length).foldl max 0
  (List.range height).map fun line =>
    rowLine (cells.map fun cell => cell.2.getD line (List.replicate cell.1 ' '))

/-- What stands for a line between rows. -/
def separator : String := String.singleton (Char.ofNat 1)

/-- A row stands for a line: its first or second cell is a separator. -/
def isSeparator (row : List Json) : Bool :=
  (row.take 2).any fun cell =>
    match cell with
    | .str s => Text.trim s == separator
    | _ => false

/-- What is drawn below the headings: the number of an ordinary row, or a separator. -/
def entries (rows : List (List Json)) : List (Option Nat) :=
  let ordinary (index : Nat) : Nat := (rows.take index).countP fun row => !isSeparator row
  rows.zipIdx.map fun (row, index) => if isSeparator row then none else some (ordinary index)

/-- The lines below the headings.  A separator in front of the last row is drawn by the
line below it alone; no more entries are drawn there than there are ordinary rows. -/
def bodyLines (d : Drawing) (columns : List Column) (ordinary : Nat)
    (entries : List (Option Nat)) : List String :=
  let under := rule '-' columns
  let earlier := (entries.dropLast.take ordinary).flatMap fun entry =>
    match entry with
    | some index => rowLines columns index ++ [under]
    | none => [under]
  let last :=
    match entries.getLast? with
    | some (some index) => rowLines columns index
    | _ => ["|" ++ (if d.tall then " " ++ separator ++ " " else separator) ++ "|"]
  earlier ++ last ++ [under]

/-- The table with its headings; every row has a cell for each of them, and some row
is no separator. -/
def grid (headings : List String) (rows : List (List Json)) : Except Fault String := do
  let ordinary := rows.filter fun row => !isSeparator row
  if ordinary.isEmpty then throw (.outOfRange .list)
  let d := Drawing.of headings ordinary
  let columns ← headings.zipIdx.mapM fun (heading, index) =>
    Column.of d heading (ordinary.map fun row => row.getD index .null)
  return "\n".intercalate
    (rule '-' columns :: rowLine (columns.map Column.heading) :: rule '=' columns
      :: bodyLines d columns ordinary.length (entries rows))

end AppOperator.Table
