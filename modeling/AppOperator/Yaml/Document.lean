import AppOperator.Yaml.Instant

/-!
# YAML documents

The value of a document.  Values without parts stand for themselves; lists,
records, sets and lists of pairs are the parts of a document and are known by
number, since one part can stand in several places and can hold itself.  The keys
of records and sets are values without parts.
-/

set_option autoImplicit false

namespace AppOperator.Yaml

inductive Value where
  | null
  | truth (value : Bool)
  | whole (value : Int)
  | number (value : Binary64)
  | text (value : String)
  | octets (value : List UInt8)
  | instant (value : Instant)
  | part (number : Nat)

abbrev Entries := List (Value × Value)

inductive Part where
  | list (items : List Value)
  | record (entries : Entries)
  | set (items : List Value)
  | pairs (pairs : Entries)

structure Document where
  parts : Array Part
  root : Value

namespace Value

/-- The document that a truth value or a number is. -/
def numeric? : Value → Option Json
  | .truth value => some (.bool value)
  | .whole value => some (.int value)
  | .number value => some (.float value)
  | _ => none

/-- Two keys are the same key. -/
def sameKey : Value → Value → Bool
  | .null, .null => true
  | .text a, .text b => a == b
  | .octets a, .octets b => a == b
  | .instant (.day a), .instant (.day b) => a == b
  | .instant (.moment a), .instant (.moment b) => a.agrees b
  | a, b =>
      match a.numeric?, b.numeric? with
      | some x, some y => x.keyForm == y.keyForm
      | _, _ => false

/-- The value can be a key. -/
def isKey : Value → Bool
  | .part _ => false
  | _ => true

end Value

namespace Entries

def get? (entries : Entries) (key : Value) : Option Value :=
  (entries.find? fun entry => entry.1.sameKey key).map (·.2)

/-- Replaces the value where the key stands; a new key goes to the end. -/
def set : Entries → Value → Value → Entries
  | [], key, value => [(key, value)]
  | (old, other) :: rest, key, value =>
      if old.sameKey key then (old, value) :: rest else (old, other) :: set rest key value

/-- Of several entries with one key the last value stays, with the first key at its place. -/
def ofPairs (pairs : List (Value × Value)) : Entries :=
  pairs.foldl (fun entries pair => set entries pair.1 pair.2) []

end Entries

namespace Part

def shape : Part → Shape
  | .list _ | .pairs _ => .list
  | .record _ => .record
  | .set _ => .set

def isEmpty : Part → Bool
  | .list items | .set items => items.isEmpty
  | .record entries | .pairs entries => entries.isEmpty

end Part

namespace Document

/-- A part of the document; a number that is not in use stands for an empty list. -/
def part (d : Document) (number : Nat) : Part :=
  (d.parts[number]?).getD (.list [])

def shape (d : Document) : Value → Shape
  | .null => .null
  | .truth _ => .truth
  | .whole _ => .whole
  | .number _ => .fraction
  | .text _ => .text
  | .octets _ => .octets
  | .instant (.day _) => .day
  | .instant (.moment _) => .moment
  | .part number => (d.part number).shape

/-- Nothing, false, zero, and what is empty do not hold. -/
def holds (d : Document) : Value → Bool
  | .null => false
  | .truth value => value
  | .whole value => value != 0
  | .number value => !value.isZero
  | .text value => value != ""
  | .octets value => !value.isEmpty
  | .instant _ => true
  | .part number => !(d.part number).isEmpty

def entries? (d : Document) : Value → Option Entries
  | .part number =>
      match d.part number with
      | .record entries => some entries
      | _ => none
  | _ => none

def setEntry (d : Document) (record : Value) (key : String) (value : Value) : Document :=
  match record, d.entries? record with
  | .part number, some entries =>
      { d with parts := d.parts.set! number (.record (entries.set (.text key) value)) }
  | _, _ => d

def add (d : Document) (part : Part) : Value × Document :=
  (.part d.parts.size, { d with parts := d.parts.push part })

mutual

/-- A value for a document from elsewhere. -/
def insert (d : Document) : Json → Value × Document
  | .null => (.null, d)
  | .bool b => (.truth b, d)
  | .int n => (.whole n, d)
  | .float x => (.number x, d)
  | .str s => (.text s, d)
  | .arr xs =>
      let (items, d) := insertItems d xs
      d.add (.list items)
  | .obj fields =>
      let (entries, d) := insertFields d fields
      d.add (.record entries)

def insertItems (d : Document) : List Json → List Value × Document
  | [] => ([], d)
  | x :: xs =>
      let (item, d) := insert d x
      let (items, d) := insertItems d xs
      (item :: items, d)

def insertFields (d : Document) : List (String × Json) → Entries × Document
  | [] => ([], d)
  | (name, x) :: fields =>
      let (value, d) := insert d x
      let (entries, d) := insertFields d fields
      ((.text name, value) :: entries, d)

end

end Document

end AppOperator.Yaml
