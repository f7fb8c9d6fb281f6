import AppOperator.Yaml.Document
import AppOperator.Yaml.Layout

/-!
# What a graph means

The value of a document is made from the nodes of its graph.  A collection is at
first an empty part, so that it can stand inside itself, and is filled later:
those that came up while the collections of one round were filled are filled in
the next round, in the order in which they came up.  A fault in an earlier round
therefore hides those in later ones.

A record may have an entry that merges others: their entries come in front of
its own, and of several that are merged together the first counts most.
-/

set_option autoImplicit false

namespace AppOperator.Yaml

/-- The graph, whose records change when others are merged into them, the parts that have
come up, and those of them that are still to be filled, the latest first. -/
structure Building where
  nodes : Array Node
  parts : Array (Option Part)
  pending : List Nat

abbrev BuildM := StateT Building (Except Fault)

namespace Building

/-- Why a node has no value. -/
def fail {α : Type} : BuildM α :=
  throw (.unreadableYaml .content)

def nodeAt (number : Nat) : BuildM Node := do
  return ((← get).nodes[number]?).getD ⟨.null, .scalar ""⟩

def entriesAt (number : Nat) : BuildM (List (Nat × Nat)) := do
  match (← nodeAt number).content with
  | .entries entries => return entries
  | _ => return []

def setEntriesAt (number : Nat) (entries : List (Nat × Nat)) : BuildM Unit :=
  modify fun s =>
    { s with nodes := s.nodes.modify number fun node => { node with content := .entries entries } }

def setTagAt (number : Nat) (tag : Tag) : BuildM Unit :=
  modify fun s => { s with nodes := s.nodes.modify number fun node => { node with tag := tag } }

/-- The text of a scalar, or of the default value of a record. -/
def textAt : (fuel number : Nat) → BuildM String
  | 0, _ => throw .tooDeep
  | fuel + 1, number => do
      match (← nodeAt number).content with
      | .scalar text => return text
      | .list _ => fail
      | .entries entries =>
          let nodes := (← get).nodes
          let isFallback (key : Nat) : Bool := (nodes[key]?).any fun node => node.tag == .fallback
          match entries.find? fun entry => isFallback entry.1 with
          | some (_, value) => textAt fuel value
          | none => fail

/-- The text of a node; a chain of default values that does not end is too deep. -/
def text (number : Nat) : BuildM String := do
  textAt ((← get).nodes.size + 1) number

/-- The part that a node is, which is empty when it comes up. -/
def partAt (number : Nat) (empty : Part) : BuildM Value := do
  let s ← get
  if ((s.parts[number]?).getD none).isNone then
    set { s with parts := s.parts.set! number (some empty), pending := number :: s.pending }
  return .part number

def value (number : Nat) : BuildM Value := do
  match (← nodeAt number).tag with
  | .null =>
      discard (text number)
      return .null
  | .truth => return .truth (← truthValue (← text number))
  | .whole => return .whole (← wholeValue (← text number))
  | .number => return .number (← numberValue (← text number))
  | .text => return .text (← text number)
  | .octets => return .octets (← octetsValue (← text number))
  | .instant =>
      let written ← text number
      match (← nodeAt number).content with
      | .scalar _ => return .instant (← instantValue written)
      | _ => throw (.noText .list)
  | .list => partAt number (.list [])
  | .record => partAt number (.record [])
  | .set => partAt number (.set [])
  | .ordered | .pairs => partAt number (.pairs [])
  | .merge | .fallback | .foreign => fail

/-- Merges into a record what its entries from some index on ask for; `merged` is what
has been found.  `merges` bounds the entries that merge in the graph, of which each is
taken away when it is met, and `steps` the other entries. -/
def mergeFrom (merges steps number index : Nat) (merged : List (Nat × Nat)) : BuildM Unit := do
  let entries ← entriesAt number
  match entries[index]? with
  | none => setEntriesAt number (merged ++ entries)
  | some (key, source) =>
      match (← nodeAt key).tag, merges, steps with
      | .merge, merges + 1, _ =>
          setEntriesAt number (entries.eraseIdx index)
          let mergeOf (other : Nat) : BuildM (List (Nat × Nat)) := do
            match (← nodeAt other).content with
            | .entries found =>
                mergeFrom merges (found.length + 1) other 0 []
                entriesAt other
            | _ => fail
          let found ←
            match (← nodeAt source).content with
            | .list items => do pure (← items.mapM mergeOf).reverse.flatten
            | _ => mergeOf source
          mergeFrom merges ((← entriesAt number).length + 1) number index (merged ++ found)
      | tag, merges, steps + 1 =>
          if tag == .fallback then setTagAt key .text
          mergeFrom merges steps number (index + 1) merged
      | _, _, _ => throw .tooDeep
termination_by (merges, steps)

/-- The entries of the graph that merge others. -/
def countMerges (nodes : Array Node) : Nat :=
  let isMerge (key : Nat) : Bool := (nodes[key]?).any fun node => node.tag == .merge
  let count (node : Node) : Nat :=
    match node.content with
    | .entries entries => entries.countP fun entry => isMerge entry.1
    | _ => 0
  nodes.foldl (fun total node => total + count node) 0

/-- The entries of a record, with what they merge. -/
def mergedEntries (number : Nat) : BuildM (List (Nat × Nat)) := do
  match (← nodeAt number).content with
  | .entries entries =>
      mergeFrom (countMerges (← get).nodes) (entries.length + 1) number 0 []
      entriesAt number
  | _ => fail

/-- A key with its value; collections cannot be keys. -/
def entry (key source : Nat) : BuildM (Value × Value) := do
  let key ← value key
  if !key.isKey then fail
  return (key, ← value source)

def entries (number : Nat) : BuildM Entries := do
  return .ofPairs (← (← mergedEntries number).mapM fun (key, source) => entry key source)

def items (number : Nat) : BuildM (List Nat) := do
  match (← nodeAt number).content with
  | .list items => return items
  | _ => fail

def pair (number : Nat) : BuildM (Value × Value) := do
  match (← nodeAt number).content with
  | .entries [(key, source)] => return (← value key, ← value source)
  | _ => fail

/-- What stands in a part that has come up. -/
def filled (number : Nat) : BuildM Part := do
  match (← nodeAt number).tag with
  | .record => return .record (← entries number)
  | .set => return .set ((← entries number).map (·.1))
  | .ordered | .pairs => return .pairs (← (← items number).mapM pair)
  | _ => return .list (← (← items number).mapM value)

/-- Fills the parts that have come up, round after round.  Every round but the last brings
up a part for a node that had none. -/
def fill : (fuel : Nat) → BuildM Unit
  | 0 => return
  | fuel + 1 => do
      let round := (← get).pending.reverse
      modify fun s => { s with pending := [] }
      for number in round do
        let part ← filled number
        modify fun s => { s with parts := s.parts.set! number (some part) }
      if !(← get).pending.isEmpty then fill fuel

end Building

/-- The document that a graph means; a text without a document means nothing. -/
def Document.ofGraph (graph : Graph) : Except Fault Document := do
  match graph.root with
  | none => return ⟨#[], .null⟩
  | some root =>
      let build : BuildM Value := do
        let value ← Building.value root
        Building.fill (graph.nodes.size + 1)
        return value
      let (value, building) ← build.run ⟨graph.nodes, Array.replicate graph.nodes.size none, []⟩
      return ⟨building.parts.map fun part => part.getD (.list []), value⟩

def Document.ofText (text : String) : Except Fault Document := do
  Document.ofGraph (← Graph.ofText text)

end AppOperator.Yaml
