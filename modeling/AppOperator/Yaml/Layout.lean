import AppOperator.Text.Lines
import AppOperator.Yaml.Graph
import AppOperator.Yaml.Tokens

/-!
# The layout of a document

Tokens are put together to the nodes of a graph.  A node may have a name and a
tag in front of it, in either order; where only these stand the node is an empty
scalar.  `Graph.ofText` reads the one document of a text.

Every computation takes a token or ends, so the fuel of `Graph.ofText`, which
grows with the length of the text, is never used up.
-/

set_option autoImplicit false

namespace AppOperator.Yaml

/-- The tokens that are left, and what has been laid out so far. -/
structure Layout where
  tokens : Tokens
  /-- short forms for the beginnings of tags -/
  handles : List (String × String)
  nodes : Array Node
  names : List (String × Nat)

abbrev LayoutM := StateT Layout (Except Fault)

/-- Where a node stands: in a flow collection, in a block collection, or as a key or value
of one, where a list may stand at the column of the record. -/
inductive Site where
  | flow
  | block
  | field
deriving DecidableEq, Repr

/-- What stands in front of a node. -/
structure Properties where
  name : Option String
  tag : Option String

/-- Collections cannot be nested more deeply than this. -/
def deepest : Nat := 485

namespace Layout

def ofTokens {α : Type} (read : TokensM α) : LayoutM α := do
  let s ← get
  let (value, tokens) ← read.run s.tokens
  set { s with tokens := tokens }
  return value

def peek : LayoutM Token := ofTokens Tokens.peek

def drop : LayoutM Unit := ofTokens Tokens.drop

def fail {α : Type} (cause : Cause) : LayoutM α :=
  throw (.unreadableYaml cause)

def passes (token : Token) : LayoutM Bool := do
  if (← peek) == token then
    drop
    return true
  else return false

/-- The next token is one of several. -/
def isAtOneOf (tokens : List Token) : LayoutM Bool := do
  return tokens.contains (← peek)

/-- A new node, which gets a name if it has one. -/
def add (name : Option String) (node : Node) : LayoutM Nat := do
  let s ← get
  let number := s.nodes.size
  set { s with
    nodes := s.nodes.push node
    names := (name.map fun name => (name, number)).toList ++ s.names }
  return number

/-- The content of a collection, when all of it is known. -/
def complete (number : Nat) (content : Content) : LayoutM Unit :=
  modify fun s => { s with nodes := s.nodes.modify number fun node => { node with content } }

def addEmpty : LayoutM Nat :=
  add none ⟨.null, .scalar ""⟩

def named (name : String) : LayoutM Nat := do
  match (← get).names.lookup name with
  | some number => return number
  | none => fail .reference

/-- A name belongs to one node. -/
def checkName (name : Option String) : LayoutM Unit := do
  let names := (← get).names
  if name.any fun name => (names.lookup name).isSome then fail .reference

def anchor? : LayoutM (Option String) := do
  match ← peek with
  | .anchor name =>
      drop
      return some name
  | _ => return none

/-- The tag as it is written, if one stands here. -/
def tag? : LayoutM (Option WrittenTag) := do
  match ← peek with
  | .tag tag =>
      drop
      return some tag
  | _ => return none

def fullName (tag : WrittenTag) : LayoutM String := do
  match tag.handle with
  | none => return tag.rest
  | some handle =>
      match (← get).handles.lookup handle with
      | some beginning => return beginning ++ tag.rest
      | none => fail .layout

/-- A name and a tag at most, in either order. -/
def properties : LayoutM Properties := do
  let first ← anchor?
  let tag ← tag?
  let name ← if first.isNone && tag.isSome then anchor? else pure first
  return ⟨name, ← tag.mapM fullName⟩

/-- The tag that says nothing. -/
def noTag : String := "!"

/-- The tag of a node whose own tag says nothing. -/
def tagOr (written : Option String) (default : Tag) : Tag :=
  ((written.filter (· != noTag)).map Tag.ofName).getD default

/-- The tag of a scalar: one without quotes, or with the tag that says nothing, is what its
text says. -/
def scalarTag (written : Option String) (text : String) (plain : Bool) : Tag :=
  tagOr written (if written.isNone && !plain then .text else Tag.ofPlain text)

/-- A scalar where only a name and a tag stand. -/
def addBare (found : Properties) : LayoutM Nat := do
  if found.name.isNone && found.tag.isNone then fail .layout
  checkName found.name
  add found.name ⟨scalarTag found.tag "" true, .scalar ""⟩

/-- A collection of which nothing is known yet. -/
def openNode (found : Properties) (tag : Tag) (depth : Nat) : LayoutM Nat := do
  checkName found.name
  if depth > deepest then throw .tooDeep
  add found.name ⟨tagOr found.tag tag, .list []⟩

mutual

def node : (fuel depth : Nat) → Site → LayoutM Nat
  | 0, _, _ => throw .tooDeep
  | fuel + 1, depth, site => do
      if let .alias name ← peek then
        drop
        return ← named name
      let found ← properties
      match ← peek with
      | .scalar text plain =>
          drop
          checkName found.name
          add found.name ⟨scalarTag found.tag text plain, .scalar text⟩
      | .blockEntry =>
          if site != .field then addBare found
          else
            let number ← openNode found .list depth
            complete number (.list (← levelItems fuel (depth + 1)))
            return number
      | .flowListStart =>
          let number ← openNode found .list depth
          drop
          complete number (.list (← flowItems fuel (depth + 1) true))
          return number
      | .flowRecordStart =>
          let number ← openNode found .record depth
          drop
          complete number (.entries (← flowEntries fuel (depth + 1) true))
          return number
      | .blockListStart =>
          if site == .flow then addBare found
          else
            let number ← openNode found .list depth
            drop
            complete number (.list (← blockItems fuel (depth + 1)))
            return number
      | .blockRecordStart =>
          if site == .flow then addBare found
          else
            let number ← openNode found .record depth
            drop
            complete number (.entries (← blockEntries fuel (depth + 1)))
            return number
      | _ => addBare found

/-- A node, or an empty scalar in front of one of some tokens. -/
def nodeUnless : (fuel depth : Nat) → Site → (ends : List Token) → LayoutM Nat
  | 0, _, _, _ => throw .tooDeep
  | fuel + 1, depth, site, ends => do
      if ← isAtOneOf ends then addEmpty else node fuel depth site

/-- The value behind its mark, or an empty scalar where the mark is left out. -/
def valueUnless : (fuel depth : Nat) → Site → (ends : List Token) → LayoutM Nat
  | 0, _, _, _ => throw .tooDeep
  | fuel + 1, depth, site, ends => do
      if ← passes .value then nodeUnless fuel depth site ends else addEmpty

def blockItems : (fuel depth : Nat) → LayoutM (List Nat)
  | 0, _ => throw .tooDeep
  | fuel + 1, depth => do
      if ← passes .blockEntry then
        let item ← nodeUnless fuel depth .block [.blockEntry, .blockEnd]
        return item :: (← blockItems fuel depth)
      else if ← passes .blockEnd then return []
      else fail .layout

/-- The items of a block list at the column of a record. -/
def levelItems : (fuel depth : Nat) → LayoutM (List Nat)
  | 0, _ => throw .tooDeep
  | fuel + 1, depth => do
      if ← passes .blockEntry then
        let item ← nodeUnless fuel depth .block [.blockEntry, .key, .value, .blockEnd]
        return item :: (← levelItems fuel depth)
      else return []

/-- The entries of a block record. -/
def blockEntries : (fuel depth : Nat) → LayoutM (List (Nat × Nat))
  | 0, _ => throw .tooDeep
  | fuel + 1, depth => do
      if ← passes .key then
        let key ← nodeUnless fuel depth .field [.key, .value, .blockEnd]
        let value ← valueUnless fuel depth .field [.key, .value, .blockEnd]
        return (key, value) :: (← blockEntries fuel depth)
      else if ← passes .blockEnd then return []
      else fail .layout

/-- The items of a flow list; one with a key is a record of one entry. -/
def flowItems : (fuel depth : Nat) → (isFirst : Bool) → LayoutM (List Nat)
  | 0, _, _ => throw .tooDeep
  | fuel + 1, depth, isFirst => do
      if ← passes .flowListEnd then return []
      if !isFirst then
        if !(← passes .flowEntry) then fail .layout
      if ← passes .key then
        let number ← openNode ⟨none, none⟩ .record depth
        let key ← nodeUnless fuel (depth + 1) .flow [.value, .flowEntry, .flowListEnd]
        let value ← valueUnless fuel (depth + 1) .flow [.flowEntry, .flowListEnd]
        complete number (.entries [(key, value)])
        return number :: (← flowItems fuel depth false)
      else if ← passes .flowListEnd then return []
      else
        let item ← node fuel depth .flow
        return item :: (← flowItems fuel depth false)

/-- The entries of a flow record; the value of a key without a mark is empty. -/
def flowEntries : (fuel depth : Nat) → (isFirst : Bool) → LayoutM (List (Nat × Nat))
  | 0, _, _ => throw .tooDeep
  | fuel + 1, depth, isFirst => do
      if ← passes .flowRecordEnd then return []
      if !isFirst then
        if !(← passes .flowEntry) then fail .layout
      if ← passes .key then
        let key ← nodeUnless fuel depth .flow [.value, .flowEntry, .flowRecordEnd]
        let value ← valueUnless fuel depth .flow [.flowEntry, .flowRecordEnd]
        return (key, value) :: (← flowEntries fuel depth false)
      else if ← passes .flowRecordEnd then return []
      else
        let key ← node fuel depth .flow
        let value ← addEmpty
        return (key, value) :: (← flowEntries fuel depth false)

end

/-- The short forms that every document has. -/
def commonHandles : List (String × String) :=
  [("!", "!"), ("!!", Tag.commonSchema)]

/-- The directives at the head of a document: one version of the first kind at most, and
each short form once. -/
def directives : (fuel : Nat) → (versioned : Bool) → (handles : List (String × String)) →
    LayoutM Unit
  | 0, _, _ => throw .tooDeep
  | fuel + 1, versioned, handles => do
      match ← peek with
      | .directive directive =>
          drop
          match directive with
          | .version major =>
              if versioned || major != 1 then fail .layout
              directives fuel true handles
          | .handle handle beginning =>
              if (handles.lookup handle).isSome then fail .layout
              directives fuel versioned ((handle, beginning) :: handles)
          | .other => directives fuel versioned handles
      | _ => modify fun s => { s with handles := handles ++ commonHandles }

/-- Passes the marks that end documents. -/
def passEnds : (fuel : Nat) → LayoutM Unit
  | 0 => throw .tooDeep
  | fuel + 1 => do
      if ← passes .documentEnd then passEnds fuel

/-- A further document begins, unless the text ends. -/
def startsDocument (fuel : Nat) : LayoutM Bool := do
  passEnds fuel
  if (← peek) == .streamEnd then return false
  directives fuel false []
  if !(← passes .documentStart) then fail .layout
  return true

/-- A token with which a document begins that has no mark of its beginning. -/
def startsUnmarked : Token → Bool
  | .directive _ | .documentStart | .streamEnd => false
  | _ => true

/-- A token in front of which a document is empty. -/
def endsDocument : Token → Bool
  | .directive _ | .documentStart | .documentEnd | .streamEnd => true
  | _ => false

/-- The root of the first document of a text, if there is one. -/
def firstRoot (fuel : Nat) : LayoutM (Option Nat) := do
  if startsUnmarked (← peek) then
    modify fun s => { s with handles := commonHandles }
    return some (← node fuel 1 .block)
  else if ← startsDocument fuel then
    if endsDocument (← peek) then return some (← addEmpty)
    else return some (← node fuel 1 .block)
  else return none

/-- The root of the one document of a text, if there is one. -/
def root (fuel : Nat) : LayoutM (Option Nat) := do
  let root ← firstRoot fuel
  if root.isSome then
    if ← startsDocument fuel then fail .reference
  return root

end Layout

def Graph.ofText (text : String) : Except Fault Graph := do
  let cs := Text.unifyLineBreaks text.toList
  let tokens ← Tokens.start cs
  let (root, layout) ← (Layout.root (8 * cs.length + 64)).run ⟨tokens, [], #[], []⟩
  return ⟨layout.nodes, root⟩

end AppOperator.Yaml
