import AppOperator.Yaml.Document

/-!
# YAML documents in messages

A value as messages show it, and as it stands in a sentence.  A part that stands
inside itself is shown there by three points in its brackets.  A whole number to
another base than ten may have more digits than are written; what holds one cannot
be shown.
-/

set_option autoImplicit false

namespace AppOperator.Yaml

/-- One octet inside quotes. -/
def shownOctet (quote : Char) (octet : UInt8) : List Char :=
  let c := Char.ofNat octet.toNat
  if c == quote || c == '\\' then ['\\', c]
  else if c == '\n' then ['\\', 'n']
  else if c == '\r' then ['\\', 'r']
  else if c == '\t' then ['\\', 't']
  else if 0x20 ≤ octet.toNat && octet.toNat < 0x7F then [c]
  else '\\' :: 'x' :: Text.hex 2 octet.toNat

/-- Octets in quotes, which are chosen as for a text. -/
def shownOctets (octets : List UInt8) : String :=
  let quote := Text.quoteFor (octets.map fun octet => Char.ofNat octet.toNat)
  String.ofList ('b' :: quote :: octets.flatMap (shownOctet quote) ++ [quote])

def bracketed (opening closing : String) (items : List String) : String :=
  opening ++ ", ".intercalate items ++ closing

/-- How many places a set of so many members has: eight, as long as it has at most four. -/
def setPlaces (count : Nat) : Nat :=
  if count ≤ 4 then 8 else 2 * twoTo (2 * count).log2

/-- The place of a member of a set, if it is a whole number. -/
def placeIn (places : Nat) : Value → Option Int
  | .whole n => some (Int.emod (if n == -1 then -2 else n) places)
  | _ => none

/-- The members of a set in the order in which they are shown: whole numbers by their
places, others as they came. -/
def setOrder (members : List Value) : List Value :=
  let places := members.map fun member => (placeIn (setPlaces members.length) member, member)
  if places.all (·.1.isSome) then
    (places.mergeSort fun a b => a.1.getD 0 ≤ b.1.getD 0).map (·.2)
  else members

/-- A whole number has more digits than are written. -/
def isLong (n : Int) : Bool :=
  n.natAbs ≥ tenTo Json.mostDigits

/-- Why a value cannot be shown that holds a long number. -/
def longNumber : Fault :=
  .badValue Json.longNumberText

namespace Document

/-- A long number stands in a value inside the parts `outer`, which are different parts. -/
def hasLongIn (d : Document) : (fuel : Nat) → (outer : List Nat) → Value → Bool
  | _, _, .whole value => isLong value
  | fuel + 1, outer, .part number =>
      let hasLong := hasLongIn d fuel (number :: outer)
      !outer.contains number &&
        match d.part number with
        | .list items | .set items => items.any hasLong
        | .pairs entries | .record entries =>
            entries.any fun (key, value) => hasLong key || hasLong value
  | _, _, _ => false

/-- A value can be shown. -/
def checkShown (d : Document) (value : Value) : Except Fault Unit :=
  if d.hasLongIn (d.parts.size + 1) [] value then .error longNumber else .ok ()

/-- A value as messages show it, inside the parts `outer`.  These are different parts, so
there are no more levels than parts. -/
def shownIn (d : Document) : (fuel : Nat) → (outer : List Nat) → Value → String
  | _, _, .null => "None"
  | _, _, .truth value => if value then "True" else "False"
  | _, _, .whole value => Decimal.intText value
  | _, _, .number value => Decimal.documentText value
  | _, _, .text value => Text.quoted value
  | _, _, .octets value => shownOctets value
  | _, _, .instant (.day value) => value.shown
  | _, _, .instant (.moment value) => value.shown
  | 0, _, .part _ => ""
  | fuel + 1, outer, .part number =>
      let again := outer.contains number
      let shown := shownIn d fuel (number :: outer)
      match d.part number with
      | .list items => bracketed "[" "]" (if again then ["..."] else items.map shown)
      | .pairs pairs =>
          bracketed "[" "]" <|
            if again then ["..."]
            else pairs.map fun (key, value) => bracketed "(" ")" [shown key, shown value]
      | .record entries =>
          bracketed "\x7b" "\x7d" <|
            if again then ["..."]
            else entries.map fun (key, value) => shown key ++ ": " ++ shown value
      | .set [] => "set()"
      | .set members => bracketed "\x7b" "\x7d" ((setOrder members).map shown)

def shown (d : Document) (value : Value) : String :=
  d.shownIn (d.parts.size + 1) [] value

def spoken (d : Document) : Value → String
  | .text value => value
  | .instant (.day value) => value.spoken
  | .instant (.moment value) => value.spoken
  | value => d.shown value

end Document

end AppOperator.Yaml
