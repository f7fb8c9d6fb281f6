import AppOperator.Yaml.Spelling
import AppOperator.Yaml.Word

/-!
# Reading tokens

Tokens are read from a text no further than they are asked for.  In block style
the indentation opens and closes collections: a column deeper than the current
one opens one, and a lower column closes those that stand deeper.

A key needs no mark of its own.  Wherever one may begin its place is remembered,
and when a colon follows on the same line, not too far behind, the tokens that
open the key are put in front of what has been read since.  As long as that may
still happen the next token is not given out.
-/

set_option autoImplicit false

namespace AppOperator.Yaml

/-- The longest distance between the start of a key and its colon. -/
def longestKey : Nat := 1024

/-- Where a key may have begun: the number of its first token, and its place. -/
structure KeyStart where
  number : Nat
  /-- nothing but a key may stand there -/
  required : Bool
  index : Nat
  line : Nat
  column : Nat

/-- What is left to be read, and what has been read and not been given out. -/
structure Tokens where
  place : Place
  queue : List Token
  /-- how many tokens have been given out -/
  taken : Nat
  /-- by the depth in flow collections -/
  keys : List (Int × KeyStart)
  indent : Int
  indents : List Int
  /-- how many flow collections are open; a mark that closes none makes it negative -/
  depth : Int
  keyAllowed : Bool
  ended : Bool

abbrev TokensM := StateT Tokens (Except Fault)

namespace Tokens

def start (text : List Char) : Except Fault Tokens := do
  return ⟨← Place.start text, [], 0, [], -1, [], 0, true, false⟩

def inFlow (s : Tokens) : Bool :=
  s.depth != 0

/-- Reads a word at the current place. -/
def word {α : Type} (scan : Scan α) : TokensM α := do
  let s ← get
  let (value, place) ← scan.run s.place
  set { s with place := place }
  return value

def wrong {α : Type} : TokensM α :=
  word Scan.wrong

def put (token : Token) : TokensM Unit :=
  modify fun s => { s with queue := s.queue ++ [token] }

/-- Puts a token in front of the one with a number. -/
def insert (number : Nat) (token : Token) : TokensM Unit :=
  modify fun s =>
    let before := number - s.taken
    { s with queue := s.queue.take before ++ token :: s.queue.drop before }

def allowKey (allowed : Bool) : TokensM Unit :=
  modify fun s => { s with keyAllowed := allowed }

/-- A colon can no longer follow the start of a key. -/
def isLost (p : Place) (key : KeyStart) : Bool :=
  key.line != p.line || p.index - key.index > longestKey

def forgetLost : TokensM Unit := do
  let s ← get
  if s.keys.any fun entry => isLost s.place entry.2 && entry.2.required then wrong
  set { s with keys := s.keys.filter fun entry => !isLost s.place entry.2 }

def forgetKey : TokensM Unit := do
  let s ← get
  if (s.keys.lookup s.depth).any (·.required) then wrong
  set { s with keys := s.keys.filter fun entry => entry.1 != s.depth }

/-- Remembers that a key may begin here. -/
def rememberKey : TokensM Unit := do
  let s ← get
  if s.keyAllowed then
    forgetKey
    let p := s.place
    let required := !s.inFlow && s.indent == p.column
    let key : KeyStart := ⟨s.taken + s.queue.length, required, p.index, p.line, p.column⟩
    modify fun s => { s with keys := (s.depth, key) :: s.keys }

/-- The indentations deeper than a column, from the current one on, and the others. -/
def deeper (column : Int) : List Int → Nat × List Int
  | [] => (0, [])
  | indent :: outer =>
      if column < indent then
        let (count, rest) := deeper column outer
        (count + 1, rest)
      else (0, indent :: outer)

/-- Closes the block collections that stand deeper than a column. -/
def closeBlocks (column : Int) : TokensM Unit :=
  modify fun s =>
    if s.inFlow then s
    else
      let (count, rest) := deeper column (s.indent :: s.indents)
      { s with
        queue := s.queue ++ List.replicate count .blockEnd
        indent := rest.head?.getD (-1)
        indents := rest.drop 1 }

/-- Opens a block collection at a column, if it is deeper than the current one. -/
def openBlock (column : Nat) : TokensM Bool := do
  let s ← get
  if s.indent < column then
    set { s with indents := s.indent :: s.indents, indent := (column : Int) }
    return true
  else return false

/-- Ends what stands before a mark that belongs to no collection. -/
def closeAll : TokensM Unit := do
  closeBlocks (-1)
  forgetKey
  allowKey false

/-- A mark of one character. -/
def mark (token : Token) : TokensM Unit := do
  word (Scan.forward 1)
  put token

def readEnd : TokensM Unit := do
  closeAll
  put .streamEnd
  modify fun s => { s with keys := [], ended := true }

def readDirective : TokensM Unit := do
  closeAll
  put (.directive (← word directiveLine))

def readBoundary (token : Token) : TokensM Unit := do
  closeAll
  word (Scan.forward 3)
  put token

def openFlow (token : Token) : TokensM Unit := do
  rememberKey
  modify fun s => { s with depth := s.depth + 1 }
  allowKey true
  mark token

def closeFlow (token : Token) : TokensM Unit := do
  forgetKey
  modify fun s => { s with depth := s.depth - 1 }
  allowKey false
  mark token

def readFlowEntry : TokensM Unit := do
  allowKey true
  forgetKey
  mark .flowEntry

/-- A mark that may open a block collection of its own, where a key may begin. -/
def openAt (token : Token) : TokensM Unit := do
  let s ← get
  if !s.inFlow then
    if !s.keyAllowed then wrong
    if ← openBlock s.place.column then put token

def readBlockEntry : TokensM Unit := do
  openAt .blockListStart
  allowKey true
  forgetKey
  mark .blockEntry

def readKey : TokensM Unit := do
  openAt .blockRecordStart
  allowKey !(← get).inFlow
  forgetKey
  mark .key

/-- The colon of a value; the key in front of it gets its tokens now. -/
def readValue : TokensM Unit := do
  let s ← get
  match s.keys.lookup s.depth with
  | some key =>
      set { s with keys := s.keys.filter fun entry => entry.1 != s.depth }
      insert key.number .key
      if !s.inFlow then
        if ← openBlock key.column then insert key.number .blockRecordStart
      allowKey false
  | none =>
      openAt .blockRecordStart
      allowKey !s.inFlow
      forgetKey
  mark .value

/-- A word with which a key may begin. -/
def readWord (scan : Scan Token) : TokensM Unit := do
  rememberKey
  allowKey false
  put (← word scan)

def readBlockScalar (folded : Bool) : TokensM Unit := do
  allowKey true
  forgetKey
  put (.scalar (← word (blockScalar folded (← get).indent)) false)

def readPlain : TokensM Unit := do
  rememberKey
  let s ← get
  let (text, crossed) ← word (plainScalar s.inFlow s.indent)
  allowKey crossed
  put (.scalar text true)

def readAt (c : Char) : TokensM Unit := do
  let s ← get
  let p := s.place
  if c == '%' && p.column == 0 then readDirective
  else if p.isAtMark "---" then readBoundary .documentStart
  else if p.isAtMark "..." then readBoundary .documentEnd
  else if c == '[' then openFlow .flowListStart
  else if c == '\x7b' then openFlow .flowRecordStart
  else if c == ']' then closeFlow .flowListEnd
  else if c == '\x7d' then closeFlow .flowRecordEnd
  else if c == ',' then readFlowEntry
  else if c == '-' && p.isAlone then readBlockEntry
  else if c == '?' && (s.inFlow || p.isAlone) then readKey
  else if c == ':' && (s.inFlow || p.isAlone) then readValue
  else if c == '*' then readWord (return .alias (← nodeName))
  else if c == '&' then readWord (return .anchor (← nodeName))
  else if c == '!' then readWord (return .tag (← writtenTag))
  else if c == '|' && !s.inFlow then readBlockScalar false
  else if c == '>' && !s.inFlow then readBlockScalar true
  else if c == '\'' then readWord (return .scalar (← quotedScalar false) false)
  else if c == '"' then readWord (return .scalar (← quotedScalar true) false)
  else if startsPlain s.inFlow p.rest then readPlain
  else wrong

def readMore : TokensM Unit := do
  let (place, crossed) := (← get).place.skipGap
  modify fun s =>
    { s with place := place, keyAllowed := s.keyAllowed || (crossed && !s.inFlow) }
  if place.isCutOff then wrong
  forgetLost
  closeBlocks place.column
  match place.rest with
  | [] => readEnd
  | c :: _ => readAt c
  if (← get).place.isCutOff then wrong

/-- The next token is not certain yet. -/
def isOpen : TokensM Bool := do
  if (← get).ended then return false
  if (← get).queue.isEmpty then return true
  forgetLost
  let s ← get
  return s.keys.any fun entry => entry.2.number == s.taken

/-- Reads until the next token is certain.  Each token but the last takes a character. -/
def settle : (fuel : Nat) → TokensM Unit
  | 0 => return
  | fuel + 1 => do
      if ← isOpen then
        readMore
        settle fuel

/-- The next token, which stays. -/
def peek : TokensM Token := do
  settle ((← get).place.left + 2)
  return (← get).queue.head?.getD .streamEnd

def drop : TokensM Unit := do
  discard peek
  modify fun s => { s with queue := s.queue.drop 1, taken := s.taken + 1 }

end Tokens

end AppOperator.Yaml
