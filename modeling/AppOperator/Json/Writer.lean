import AppOperator.Json.Basic
import AppOperator.Number.Decimal
import AppOperator.Text.Quoted

/-!
# Written documents

Documents in the text form of the interchange format, on one line or indented,
with all characters or in the first 128 only; and documents as messages show
them, with quoted texts and the words `None`, `True` and `False`.
-/

set_option autoImplicit false

namespace AppOperator.Json

/-- The spellings of numbers that are not finite. -/
def numberText (x : Binary64) : String :=
  if x.isNaN then "NaN"
  else if x.isInfinite then (if x.isNegative then "-Infinity" else "Infinity")
  else Decimal.documentText x

/-- The two escapes of a character beyond the first 65536. -/
def surrogateEscapes (n : Nat) : List Char :=
  let rest := n - 0x10000
  '\\' :: 'u' :: Text.hex 4 (0xD800 + rest / 0x400)
    ++ '\\' :: 'u' :: Text.hex 4 (0xDC00 + rest % 0x400)

/-- One character of a written text; `plain` keeps to the first 128 characters. -/
def escapedChar (plain : Bool) (c : Char) : List Char :=
  if c == '"' then ['\\', '"']
  else if c == '\\' then ['\\', '\\']
  else if c == '\n' then ['\\', 'n']
  else if c == '\r' then ['\\', 'r']
  else if c == '\t' then ['\\', 't']
  else if c.toNat == 8 then ['\\', 'b']
  else if c.toNat == 12 then ['\\', 'f']
  else if c.toNat < 0x20 then '\\' :: 'u' :: Text.hex 4 c.toNat
  else if !plain || c.toNat < 0x7F then [c]
  else if c.toNat < 0x10000 then '\\' :: 'u' :: Text.hex 4 c.toNat
  else surrogateEscapes c.toNat

def escapedText (plain : Bool) (s : String) : String :=
  String.ofList ('"' :: s.toList.flatMap (escapedChar plain) ++ ['"'])

/-- How a document is laid out: what follows an item separator and a name, and
the line break with its indentation inside a list or record. -/
structure Layout where
  plain : Bool
  itemSeparator : String
  nameSeparator : String
  indent : Option Nat

/-- On one line, a blank after each separator, all characters as they are. -/
def Layout.line : Layout where
  plain := false
  itemSeparator := ", "
  nameSeparator := ": "
  indent := none

/-- On one line without blanks, in the first 128 characters. -/
def Layout.compact : Layout where
  plain := true
  itemSeparator := ","
  nameSeparator := ":"
  indent := none

/-- One item or field to a line, two blanks deeper than the line that opens it. -/
def Layout.pretty : Layout where
  plain := true
  itemSeparator := ","
  nameSeparator := ": "
  indent := some 2

def Layout.break (layout : Layout) (depth : Nat) : String :=
  match layout.indent with
  | none => ""
  | some width => "\n" ++ String.ofList (List.replicate (width * depth) ' ')

/-- A list or record in its brackets, given its written items. -/
def Layout.enclose (layout : Layout) (depth : Nat) (opening closing : String)
    (items : List String) : String :=
  if items.isEmpty then opening ++ closing
  else
    opening ++ layout.break (depth + 1)
      ++ (layout.itemSeparator ++ layout.break (depth + 1)).intercalate items
      ++ layout.break depth ++ closing

mutual

def writeAt (layout : Layout) (depth : Nat) : Json → String
  | .null => "null"
  | .bool b => if b then "true" else "false"
  | .int n => Decimal.intText n
  | .float x => numberText x
  | .str s => escapedText layout.plain s
  | .arr xs => layout.enclose depth "[" "]" (writeItems layout (depth + 1) xs)
  | .obj fs => layout.enclose depth "\x7b" "\x7d" (writeFields layout (depth + 1) fs)

def writeItems (layout : Layout) (depth : Nat) : List Json → List String
  | [] => []
  | x :: xs => writeAt layout depth x :: writeItems layout depth xs

def writeFields (layout : Layout) (depth : Nat) : List (String × Json) → List String
  | [] => []
  | (name, x) :: fs =>
      (escapedText layout.plain name ++ layout.nameSeparator ++ writeAt layout depth x)
        :: writeFields layout depth fs

end

def write (layout : Layout) (x : Json) : String :=
  writeAt layout 0 x

mutual

/-- A document as messages show it. -/
def shown : Json → String
  | .null => "None"
  | .bool b => if b then "True" else "False"
  | .int n => Decimal.intText n
  | .float x => Decimal.documentText x
  | .str s => Text.quoted s
  | .arr xs => "[" ++ ", ".intercalate (shownItems xs) ++ "]"
  | .obj fs => "\x7b" ++ ", ".intercalate (shownFields fs) ++ "\x7d"

def shownItems : List Json → List String
  | [] => []
  | x :: xs => shown x :: shownItems xs

def shownFields : List (String × Json) → List String
  | [] => []
  | (name, x) :: fs => (Text.quoted name ++ ": " ++ shown x) :: shownFields fs

end

/-- A document inside a sentence: a text stands there without quotes. -/
def spoken : Json → String
  | .str s => s
  | x => x.shown

end AppOperator.Json
