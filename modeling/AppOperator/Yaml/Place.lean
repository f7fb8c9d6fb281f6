import AppOperator.Fault

/-!
# Places in a YAML text

The characters still to be read, with the line and the column of the first of
them: in block style the column of a word says what it belongs to.  A text is
readable up to the first character that no document may hold.  It is looked at in
blocks, and a block with such a character is not read at all; a place whose text
is `cut` has no end, and what is wrong there is the character.

`Scan` is a computation that moves a place on, and fails where nothing fits.
-/

set_option autoImplicit false

namespace AppOperator.Yaml

structure Place where
  rest : List Char
  /-- how many characters have been read -/
  index : Nat
  /-- how many are to be read -/
  left : Nat
  line : Nat
  column : Nat
  /-- what follows is not readable -/
  cut : Bool

def breaksLine (c : Char) : Bool :=
  c == '\n' || c.toNat == 0x85 || c.toNat == 0x2028 || c.toNat == 0x2029

def isIndent (c : Char) : Bool := c == ' ' || c == '\t'

/-- A line ends in front of a line break and at the end of the text. -/
def endsLine (next : Option Char) : Bool :=
  next.all breaksLine

/-- A word ends where a line ends, and in front of a blank or a tab. -/
def endsWord (next : Option Char) : Bool :=
  next.all fun c => isIndent c || breaksLine c

/-- A word ends where a line ends, and in front of a blank. -/
def endsBefore (next : Option Char) : Bool :=
  next.all fun c => c == ' ' || breaksLine c

/-- A character that a document may hold. -/
def isReadable (c : Char) : Bool :=
  let n := c.toNat
  n == 9 || n == 10 || n == 13 || (0x20 ≤ n && n ≤ 0x7E) || n == 0x85
    || (0xA0 ≤ n && n ≤ 0xFFFD) || 0x10000 ≤ n

/-- The mark of the order of octets, which takes no column. -/
def orderMark : Char := Char.ofNat 0xFEFF

namespace Place

/-- The number of characters that are looked at together. -/
def blockSize : Nat := 4096

/-- The start of a text.  Its first two blocks have to be readable. -/
def start (text : List Char) : Except Fault Place :=
  let readable := (text.takeWhile isReadable).length
  if readable == text.length then .ok ⟨text, 0, readable, 0, 0, false⟩
  else if readable < 2 * blockSize then .error (.unreadableYaml .character)
  else
    let whole := readable / blockSize * blockSize
    .ok ⟨text.take whole, 0, whole, 0, 0, true⟩

def step (p : Place) : Place :=
  match p.rest with
  | [] => p
  | c :: rest =>
      let p := { p with rest := rest, index := p.index + 1, left := p.left - 1 }
      if breaksLine c then { p with line := p.line + 1, column := 0 }
      else { p with column := if c == orderMark then p.column else p.column + 1 }

def forward : (count : Nat) → Place → Place
  | 0, p => p
  | count + 1, p => forward count p.step

def isCutOff (p : Place) : Bool :=
  p.cut && p.rest.isEmpty

/-- What is wrong where no word fits. -/
def fault (p : Place) : Fault :=
  .unreadableYaml (if p.isCutOff then .character else .word)

/-- A mark of three characters stands alone at the start of the line. -/
def isAtMark (p : Place) (mark : String) : Bool :=
  p.column == 0 && mark.toList.isPrefixOf p.rest && endsWord p.rest[3]?

/-- A document begins or ends here. -/
def isAtBoundary (p : Place) : Bool :=
  p.isAtMark "---" || p.isAtMark "..."

/-- The next character stands alone. -/
def isAlone (p : Place) : Bool :=
  endsWord p.rest[1]?

/-- Moves past blanks, comments and line breaks; says whether a line break was among them. -/
def skipGap (p : Place) : Place × Bool :=
  let rec go (inComment crossed : Bool) (p : Place) : List Char → Place × Bool
    | [] => (p, crossed)
    | c :: rest =>
        if breaksLine c then go false true p.step rest
        else if inComment || c == '#' then go true crossed p.step rest
        else if c == ' ' then go false crossed p.step rest
        else (p, crossed)
  let p := if p.index == 0 && p.rest.head? == some orderMark then p.step else p
  go false false p p.rest

end Place

/-- A break as it stands in a text: two of the breaks are kept, others are line feeds. -/
def keptBreak (c : Char) : Char :=
  if c.toNat == 0x2028 || c.toNat == 0x2029 then c else '\n'

/-- What a first line break and those after it leave of themselves: one break is
a blank, and of several the first is dropped. -/
def foldedBreaks (first : Char) (others : List Char) : List Char :=
  if first != '\n' then first :: others
  else if others.isEmpty then [' '] else others

/-- A computation that moves a place on. -/
abbrev Scan := StateT Place (Except Fault)

namespace Scan

def wrong {α : Type} : Scan α := do
  throw (← get).fault

/-- Nothing fits here, unless something holds. -/
def expect (holds : Bool) : Scan Unit :=
  if holds then pure () else wrong

/-- The character at a distance, if the text goes on so far. -/
def ahead (distance : Nat) : Scan (Option Char) :=
  return (← get).rest[distance]?

def next : Scan (Option Char) :=
  ahead 0

def forward (count : Nat) : Scan Unit :=
  modify (Place.forward count)

/-- Fuel for a computation that takes a character each time. -/
def fuel : Scan Nat :=
  return (← get).left + 1

def pass (inClass : Char → Bool) : Scan (List Char) := do
  let cs := (← get).rest.takeWhile inClass
  forward cs.length
  return cs

/-- The line break that stands here, if one does. -/
def lineBreak : Scan (Option Char) := do
  match ← next with
  | some c =>
      if breaksLine c then
        forward 1
        return some (keptBreak c)
      else return none
  | none => return none

/-- Passes the rest of a line that holds at most a comment. -/
def lineEnd : Scan Unit := do
  discard (pass (· == ' '))
  if (← next) == some '#' then discard (pass fun c => !breaksLine c)
  expect (endsLine (← next))
  discard lineBreak

end Scan

end AppOperator.Yaml
