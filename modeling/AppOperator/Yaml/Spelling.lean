import AppOperator.Yaml.Place

/-!
# Spellings of scalars

Scalars in their four spellings: in single quotes, in double quotes with
escapes, plain, and as a block of lines that is kept or folded.  A plain scalar
goes on over lines that stand deeper than the collection it belongs to.
-/

set_option autoImplicit false

namespace AppOperator.Yaml

/-- Further line breaks in quotes with the blanks between them. -/
def quotedBreaks : (fuel : Nat) → Scan (List Char)
  | 0 => return []
  | fuel + 1 => do
      Scan.expect !(← get).isAtBoundary
      discard (Scan.pass isIndent)
      match ← Scan.lineBreak with
      | some c => return c :: (← quotedBreaks fuel)
      | none => return []

/-- The character that a letter behind a backslash stands for. -/
def escaped? (c : Char) : Option Char :=
  ([('0', 0), ('a', 7), ('b', 8), ('t', 9), ('\t', 9), ('n', 10), ('v', 11), ('f', 12), ('r', 13),
    ('e', 0x1B), (' ', 0x20), ('"', 0x22), ('\\', 0x5C), ('/', 0x2F), ('N', 0x85), ('_', 0xA0),
    ('L', 0x2028), ('P', 0x2029)].lookup c).map Char.ofNat

/-- How many digits give the code of a character behind a letter. -/
def codeWidth? (c : Char) : Option Nat :=
  [('x', 2), ('u', 4), ('U', 8)].lookup c

/-- The character with a code.  Halves of surrogate pairs are replaced. -/
def coded (code : Nat) : Except Fault Char :=
  if code > 0x7FFFFFFF then .error .tooLarge
  else if code > 0x10FFFF then .error (.badValue "chr() arg not in range(0x110000)")
  else if 0xD800 ≤ code && code ≤ 0xDFFF then .ok (Char.ofNat 0xFFFD)
  else .ok (Char.ofNat code)

/-- What a backslash and the characters behind it stand for; a line break is left out. -/
def escapeSequence : Scan (List Char) := do
  Scan.forward 1
  match ← Scan.next with
  | none => Scan.wrong
  | some c =>
      match escaped? c, codeWidth? c with
      | some char, _ =>
          Scan.forward 1
          return [char]
      | none, some width =>
          Scan.forward 1
          let digits := ((← get).rest.take width).map Json.hexValue?
          Scan.expect (digits.length == width && digits.all (·.isSome))
          let char ← coded (digits.foldl (fun code digit => code * 16 + digit.getD 0) 0)
          Scan.forward width
          return [char]
      | none, none =>
          Scan.expect (breaksLine c)
          Scan.forward 1
          quotedBreaks (← Scan.fuel)

/-- Blanks in quotes, or a fold where a line ends. -/
def quotedSpaces : Scan (List Char) := do
  let blanks ← Scan.pass isIndent
  Scan.expect (← Scan.next).isSome
  match ← Scan.lineBreak with
  | some c => return foldedBreaks c (← quotedBreaks (← Scan.fuel))
  | none => return blanks

/-- The quote that a scalar in quotes stands in. -/
def quoteOf (double : Bool) : Char :=
  if double then '"' else '\''

/-- A scalar in quotes, from behind the opening one; `read` is in reverse. -/
def quotedFrom (double : Bool) : (fuel : Nat) → (read : List Char) → Scan String
  | 0, _ => Scan.wrong
  | fuel + 1, read => do
      match ← Scan.next with
      | none => Scan.wrong
      | some c =>
          if c == quoteOf double then
            if !double && (← Scan.ahead 1) == some c then
              Scan.forward 2
              quotedFrom double fuel (c :: read)
            else
              Scan.forward 1
              return String.ofList read.reverse
          else if double && c == '\\' then
            quotedFrom double fuel ((← escapeSequence).reverse ++ read)
          else if isIndent c || breaksLine c then
            quotedFrom double fuel ((← quotedSpaces).reverse ++ read)
          else
            Scan.forward 1
            quotedFrom double fuel (c :: read)

def quotedScalar (double : Bool) : Scan String := do
  Scan.forward 1
  quotedFrom double (← Scan.fuel) []

/-- The marks of flow collections. -/
def isFlowMark (c : Char) : Bool :=
  c == ',' || c == '[' || c == ']' || c == '\x7b' || c == '\x7d'

/-- The characters of a plain scalar up to a blank. -/
def plainWord (inFlow : Bool) : List Char → List Char
  | [] => []
  | c :: rest =>
      if endsWord (some c)
          || (c == ':' && (endsWord rest.head? || (inFlow && rest.head?.any isFlowMark)))
          || (inFlow && (isFlowMark c || c == '?')) then []
      else c :: plainWord inFlow rest

/-- A plain scalar may begin here. -/
def startsPlain (inFlow : Bool) (cs : List Char) : Bool :=
  match cs with
  | [] => false
  | c :: rest =>
      !(endsWord (some c) || isFlowMark c || "-?:#&*!|>'\"%@".toList.contains c || c.toNat == 0x60)
        || (!endsWord rest.head? && (c == '-' || (!inFlow && (c == '?' || c == ':'))))

/-- Further line breaks behind a plain scalar with the blanks between them; none
where a document ends. -/
def plainBreaks : (fuel : Nat) → Scan (Option (List Char))
  | 0 => return none
  | fuel + 1 => do
      if (← get).isAtBoundary then return none
      discard (Scan.pass (· == ' '))
      match ← Scan.lineBreak with
      | some c => return (← plainBreaks fuel).map (c :: ·)
      | none => return some []

/-- What may join the next word of a plain scalar to those before it, and whether a
line ended. -/
def plainSpaces : Scan (List Char × Bool) := do
  let blanks ← Scan.pass (· == ' ')
  match ← Scan.lineBreak with
  | none => return (blanks, false)
  | some c =>
      match ← plainBreaks (← Scan.fuel) with
      | some others => return (foldedBreaks c others, true)
      | none => return ([], true)

/-- A plain scalar and whether the line ended behind it; its further lines stand at
`least` or deeper.  `read` is in reverse. -/
def plainFrom (inFlow : Bool) (least : Int) : (fuel : Nat) → (read : List Char) →
    Scan (String × Bool)
  | 0, read => return (String.ofList read.reverse, false)
  | fuel + 1, read => do
      let word := plainWord inFlow (← get).rest
      Scan.forward word.length
      let read := word.reverse ++ read
      let (spaces, crossed) ← plainSpaces
      let p ← get
      if !spaces.isEmpty && p.rest.head? != some '#' && (inFlow || least ≤ p.column)
          && !(plainWord inFlow p.rest).isEmpty then
        plainFrom inFlow least fuel (spaces.reverse ++ read)
      else return (String.ofList read.reverse, crossed)

/-- A plain scalar in a collection at an indentation, and whether the line ended behind it. -/
def plainScalar (inFlow : Bool) (indent : Int) : Scan (String × Bool) := do
  plainFrom inFlow (indent + 1) (← Scan.fuel) []

/-- How the line breaks at the end of a block are kept. -/
inductive Chomping where
  | strip
  | clip
  | keep
deriving DecidableEq

def Chomping.ofChar? (c : Option Char) : Option Chomping :=
  if c == some '+' then some .keep else if c == some '-' then some .strip else none

/-- The depth that a digit in the head of a block gives. -/
def depthOf? (c : Option Char) : Option Nat :=
  (c.filter Char.isDigit).map fun c => c.toNat - 48

/-- A digit that gives a depth, which is not zero. -/
def depthDigit : Scan (Option Nat) := do
  let depth := depthOf? (← Scan.next)
  Scan.expect (depth != some 0)
  Scan.forward depth.toList.length
  return depth

/-- The marks behind the indicator of a block, in either order. -/
def blockHead : Scan (Chomping × Option Nat) := do
  match Chomping.ofChar? (← Scan.next) with
  | some chomping =>
      Scan.forward 1
      return (chomping, ← depthDigit)
  | none =>
      let depth ← depthDigit
      let next ← Scan.next
      let chomping := if depth.isSome then Chomping.ofChar? next else none
      Scan.forward chomping.toList.length
      return (chomping.getD .clip, depth)

/-- The empty lines in front of a block, and the deepest column among their blanks. -/
def leadingLines : (fuel : Nat) → (deepest : Nat) → Scan (List Char × Nat)
  | 0, deepest => return ([], deepest)
  | fuel + 1, deepest => do
      discard (Scan.pass (· == ' '))
      let deepest := max deepest (← get).column
      match ← Scan.lineBreak with
      | some c =>
          let (others, deepest) ← leadingLines fuel deepest
          return (c :: others, deepest)
      | none => return ([], deepest)

/-- The empty lines between the lines of a block at a column. -/
def blockBreaks (column : Nat) : (fuel : Nat) → Scan (List Char)
  | 0 => return []
  | fuel + 1 => do
      let p ← get
      Scan.forward (min (column - p.column) (p.rest.takeWhile (· == ' ')).length)
      match ← Scan.lineBreak with
      | some c => return c :: (← blockBreaks column fuel)
      | none => return []

/-- The lines of a block at a column.  `read` is in reverse; `breaks` are those in
front of the next line, `last` is the break behind the last one. -/
def blockLines (folded : Bool) (chomping : Chomping) (column : Nat) :
    (fuel : Nat) → (breaks read last : List Char) → Scan String
  | 0, _, read, _ => return String.ofList read.reverse
  | fuel + 1, breaks, read, last => do
      let stands (p : Place) : Bool := p.column == column && !p.rest.isEmpty
      if stands (← get) then
        let opensInText := !(← Scan.next).any isIndent
        let line ← Scan.pass fun c => !breaksLine c
        let last := (← Scan.lineBreak).toList
        let next ← blockBreaks column (← Scan.fuel)
        let read := line.reverse ++ (breaks.reverse ++ read)
        let p ← get
        let joint :=
          if !stands p then []
          else if folded && last == ['\n'] && opensInText && !p.rest.head?.any isIndent then
            if next.isEmpty then [' '] else []
          else last
        blockLines folded chomping column fuel next (joint.reverse ++ read) last
      else
        let tail :=
          match chomping with
          | .strip => []
          | .clip => last
          | .keep => last ++ breaks
        return String.ofList (tail.reverse ++ read).reverse

/-- A block scalar; its lines stand deeper than `indent`. -/
def blockScalar (folded : Bool) (indent : Int) : Scan String := do
  Scan.forward 1
  let (chomping, depth) ← blockHead
  Scan.expect (endsBefore (← Scan.next))
  Scan.lineEnd
  let least := max (indent + 1).toNat 1
  let fuel ← Scan.fuel
  match depth with
  | some depth =>
      let column := least + depth - 1
      let breaks ← blockBreaks column fuel
      blockLines folded chomping column (fuel + 1) breaks [] []
  | none =>
      let (breaks, deepest) ← leadingLines fuel 0
      blockLines folded chomping (max least deepest) (fuel + 1) breaks [] []

end AppOperator.Yaml
