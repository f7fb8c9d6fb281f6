import AppOperator.Json.Writer
import AppOperator.Yaml.Scalar

/-!
# Written YAML

Documents in block style: one item or field to a line, the fields of a record
ordered by name, an empty list or record in its brackets.  A text stands without
quotes where it reads back as the same text, in single quotes where it holds
nothing that has to be escaped, and in double quotes otherwise.  A line that has
grown beyond eighty characters is folded at the next blank of a text.

A `Pen` is where the writing has come to on its line.
-/

set_option autoImplicit false

namespace AppOperator.Yaml

/-- The column behind which lines are folded. -/
def bestWidth : Nat := 80

/-- Blanks from one level to the next. -/
def indentStep : Nat := 2

/-- The text so far, and the state of its last line. -/
structure Pen where
  written : String
  column : Nat
  /-- a word may follow without a blank -/
  spaced : Bool
  /-- only indentation and the marks of items stand on the line -/
  indenting : Bool

namespace Pen

def start : Pen := ⟨"", 0, true, true⟩

def put (pen : Pen) (cs : List Char) : Pen :=
  { pen with written := pen.written ++ String.ofList cs, column := pen.column + cs.length }

/-- A mark, with a blank before it if it needs one and there is none. -/
def mark (pen : Pen) (cs : List Char) (apart : Bool) (opens : Bool) : Pen :=
  let after := pen.put (if pen.spaced || !apart then cs else ' ' :: cs)
  { after with spaced := false, indenting := pen.indenting && opens }

def newline (pen : Pen) (mark : Char) : Pen :=
  ⟨pen.written.push mark, 0, true, true⟩

/-- Moves to a column, on the next line unless the pen is on its way there. -/
def indent (pen : Pen) (column : Nat) : Pen :=
  let pen :=
    if !pen.indenting || pen.column > column || (pen.column == column && !pen.spaced) then
      pen.newline '\n'
    else pen
  if pen.column < column then
    { pen.put (List.replicate (column - pen.column) ' ') with spaced := true }
  else pen

/-- Goes on with a word in the middle of a text. -/
def within (pen : Pen) : Pen :=
  { pen with spaced := false, indenting := false }

end Pen

def isBreak (c : Char) : Bool :=
  c == '\n' || c.toNat == 0x85 || c.toNat == 0x2028 || c.toNat == 0x2029

/-- Blanks and line breaks, as they end a word. -/
def isBlank (c : Char) : Bool :=
  c == ' ' || c == '\t' || c == '\r' || isBreak c

/-- A character that only double quotes can hold. -/
def isSpecial (c : Char) : Bool :=
  !(c == '\n' || (0x20 ≤ c.toNat && c.toNat ≤ 0x7E))

/-- The pairs of neighbours in a list satisfy a relation somewhere. -/
def hasPair (p : Char → Char → Bool) : List Char → Bool
  | a :: b :: rest => p a b || hasPair p (b :: rest)
  | _ => false

/-- A character that cannot begin a text without quotes. -/
def isLeadingIndicator (c : Char) : Bool :=
  "#,[]{}&*!|>'\"%@".toList.contains c || c.toNat == 0x60

/-- A text would be taken for something else in block style. -/
def hasIndicators (cs : List Char) : Bool :=
  "---".toList.isPrefixOf cs || "...".toList.isPrefixOf cs
    || cs.head?.any isLeadingIndicator
    || (cs.head?.any (fun c => c == '?' || c == ':' || c == '-')
        && (cs.drop 1).head?.all isBlank)
    || hasPair (fun a b => a == ':' && isBlank b) cs
    || (cs.length > 1 && cs.getLast? == some ':')
    || hasPair (fun a b => isBlank a && b == '#') cs

/-- A text fits on a line without quotes. -/
def isPlainText (cs : List Char) : Bool :=
  let blankEnd (c : Option Char) : Bool := c.any fun c => c == ' ' || isBreak c
  !(blankEnd cs.head? || blankEnd cs.getLast?) && !cs.any isBreak && !cs.any isSpecial
    && !hasIndicators cs

/-- A text reads back from single quotes. -/
def isSingleQuotable (cs : List Char) : Bool :=
  !cs.any isSpecial && !hasPair (fun a b => a == ' ' && isBreak b) cs
    && !hasPair (fun a b => isBreak a && b == ' ') cs

/-- How a scalar is written. -/
inductive Style where
  | plain
  | single
  | double
deriving DecidableEq, Repr

/-- The style of a text; a name stands on one line. -/
def styleOf (isName : Bool) (s : String) : Style :=
  let cs := s.toList
  let breaks := cs.any isBreak
  if Tag.ofPlain s == .text && isPlainText cs then .plain
  else if isSingleQuotable cs && !(isName && breaks) then .single
  else .double

def runClass (c : Char) : Nat :=
  if c == ' ' then 0 else if isBreak c then 1 else 2

/-- A text as runs of characters of one kind. -/
def runs (cs : List Char) : List (List Char) :=
  cs.splitBy fun a b => runClass a == runClass b

/-- The runs of a text without quotes; a single blank beyond the width folds the line. -/
def putPlain (folds : Bool) (margin : Nat) (pen : Pen) (run : List Char) : Pen :=
  if run == [' '] && pen.column > bestWidth && folds then (pen.indent margin).within
  else pen.put run

/-- The runs of a text in single quotes; the ends are not folded. -/
def putSingle (folds : Bool) (margin : Nat) (pen : Pen) (isEnd : Bool) (run : List Char) : Pen :=
  match run with
  | [] => pen
  | c :: _ =>
      if c == ' ' then
        if run == [' '] && pen.column > bestWidth && folds && !isEnd then pen.indent margin
        else pen.put run
      else if isBreak c then
        let opened := if c == '\n' then pen.newline '\n' else pen
        (run.foldl Pen.newline opened).indent margin
      else pen.put (run.flatMap fun c => if c == '\'' then ['\'', '\''] else [c])

/-- The letter that stands for a character behind a backslash. -/
def escapeLetter? (c : Char) : Option Char :=
  [(0, '0'), (7, 'a'), (8, 'b'), (9, 't'), (10, 'n'), (11, 'v'), (12, 'f'), (13, 'r'),
    (0x1B, 'e'), (0x22, '"'), (0x5C, '\\'), (0x85, 'N'), (0xA0, '_'), (0x2028, 'L'),
    (0x2029, 'P')].lookup c.toNat

/-- A character in double quotes, if it cannot stand there as it is. -/
def escape? (c : Char) : Option (List Char) :=
  let code (width : Nat) : List Char := (Text.hex width c.toNat).map Char.toUpper
  if c == '"' || c == '\\' || !(0x20 ≤ c.toNat && c.toNat ≤ 0x7E) then
    some <| '\\' ::
      match escapeLetter? c with
      | some letter => [letter]
      | none =>
          if c.toNat ≤ 0xFF then 'x' :: code 2
          else if c.toNat ≤ 0xFFFF then 'u' :: code 4
          else 'U' :: code 8
  else none

/-- Breaks a line in double quotes; a blank behind the break is marked. -/
def foldDouble (margin : Nat) (pen : Pen) (next : Option Char) : Pen :=
  let pen := ((pen.put ['\\']).indent margin).within
  if next == some ' ' then pen.put ['\\'] else pen

/-- A text in double quotes from some character on; `pending` is still to be put. -/
def putDouble (folds : Bool) (margin : Nat) : (atStart : Bool) → (pending : List Char) → Pen →
    List Char → Pen
  | _, pending, pen, [] => pen.put pending
  | atStart, pending, pen, c :: rest =>
      let inside := folds && !atStart && !rest.isEmpty
      match escape? c with
      | some escaped =>
          let pen := (pen.put pending).put escaped
          let pen :=
            if inside && pen.column > bestWidth + 1 then foldDouble margin pen rest.head? else pen
          putDouble folds margin false [] pen rest
      | none =>
          if inside && (c == ' ' || pending.isEmpty)
              && pen.column + pending.length > bestWidth then
            putDouble folds margin false [c] (foldDouble margin (pen.put pending) (some c)) rest
          else putDouble folds margin false (pending ++ [c]) pen rest

/-- Writes a text; further lines of it begin at a column. -/
def putText (isName : Bool) (margin : Nat) (pen : Pen) (s : String) : Pen :=
  let cs := s.toList
  let folds := !isName
  match styleOf isName s with
  | .plain =>
      let pen := if pen.spaced then pen else pen.put [' ']
      (runs cs).foldl (putPlain folds margin) pen.within
  | .single =>
      let parts := runs cs
      let last := parts.length - 1
      let body := parts.zipIdx.foldl
        (fun pen (run, index) => putSingle folds margin pen (index == 0 || index == last) run)
        (pen.mark ['\''] true false)
      body.mark ['\''] false false
  | .double => (putDouble folds margin true [] (pen.mark ['"'] true false) cs).mark ['"'] false false

/-- Writes a word that needs no quotes. -/
def putWord (pen : Pen) (s : String) : Pen :=
  (if pen.spaced then pen else pen.put [' ']).within.put s.toList

/-- The text of a number with a fraction; a power of ten follows a point. -/
def numberText (x : Binary64) : String :=
  if x.isNaN then ".nan"
  else if x.isInfinite then (if x.isNegative then "-.inf" else ".inf")
  else
    let cs := (Decimal.documentText x).toList
    if cs.contains '.' then String.ofList cs
    else String.ofList (cs.flatMap fun c => if c == 'e' then ['.', '0', 'e'] else [c])

/-- A name that fits in front of its value. -/
def isShortName (name : String) : Bool :=
  name != "" && !name.toList.any isBreak && name.length + 5 < 128

def inOrder (fields : List (String × Json)) : List (String × Json) :=
  fields.mergeSort fun a b => !(b.1 < a.1)

/-- Where a collection begins that is opened at a level, if it is not at the root. -/
def deeper (level : Option Nat) : Nat :=
  (level.map (· + indentStep)).getD 0

/-- Where further lines of a text begin. -/
def hanging (level : Option Nat) : Nat :=
  level.getD 0 + indentStep

/-- Writes the name of a field up to its value. -/
def putName (level : Nat) (pen : Pen) (name : String) : Pen :=
  let pen := pen.indent level
  if isShortName name then (putText true (level + indentStep) pen name).mark [':'] false false
  else
    let pen := putText false (level + indentStep) (pen.mark ['?'] true true) name
    (pen.indent level).mark [':'] true true

mutual

/-- Writes a document; `isField` says that it is the value of a name. -/
def putNode (level : Option Nat) (isField : Bool) (pen : Pen) : Json → Pen
  | .null => putWord pen "null"
  | .bool b => putWord pen (if b then "true" else "false")
  | .int n => putWord pen (Decimal.intText n)
  | .float x => putWord pen (numberText x)
  | .str s => putText false (hanging level) pen s
  | .arr [] => pen.mark ['[', ']'] true false
  | .arr (x :: xs) =>
      let level := if isField && !pen.indenting then level.getD 0 else deeper level
      putItems level pen (x :: xs)
  | .obj [] => pen.mark ['\x7b', '\x7d'] true false
  | .obj (field :: fields) => putFields (deeper level) pen (field :: fields)

def putItems (level : Nat) (pen : Pen) : List Json → Pen
  | [] => pen
  | x :: xs =>
      let pen := putNode (some level) false ((pen.indent level).mark ['-'] true true) x
      putItems level pen xs

def putFields (level : Nat) (pen : Pen) : List (String × Json) → Pen
  | [] => pen
  | (name, x) :: fields =>
      let pen := putNode (some level) true (putName level pen name) x
      putFields level pen fields

end

mutual

def sorted : Json → Json
  | .arr xs => .arr (sortedItems xs)
  | .obj fields => .obj (inOrder (sortedFields fields))
  | x => x

def sortedItems : List Json → List Json
  | [] => []
  | x :: xs => sorted x :: sortedItems xs

def sortedFields : List (String × Json) → List (String × Json)
  | [] => []
  | (name, x) :: fields => (name, sorted x) :: sortedFields fields

end

/-- The document is a scalar that is written without quotes. -/
def isBare : Json → Bool
  | .arr _ | .obj _ => false
  | .str s => styleOf false s == .plain
  | _ => true

/-- The text of a document; a scalar without quotes is followed by the mark of
the end. -/
def write (x : Json) : String :=
  (putNode none false .start (sorted x)).written ++ "\n" ++ (if isBare x then "...\n" else "")

end AppOperator.Yaml
