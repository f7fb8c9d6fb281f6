import AppOperator.Number.Reading
import AppOperator.Text.Utf8
import AppOperator.Yaml.Place
import AppOperator.Yaml.Token

/-!
# Words of a YAML text

Names of nodes, tags, and the directives at the head of a document.  A word has
to be followed by something that may stand behind it.
-/

set_option autoImplicit false

namespace AppOperator.Yaml

/-- The characters of names and short forms. -/
def isNameChar (c : Char) : Bool :=
  c.isAlphanum || c == '-' || c == '_'

/-- What may follow a name directly. -/
def endsName (next : Option Char) : Bool :=
  endsWord next || next.any fun c => "?:,]%@".toList.contains c || c == '\x7d' || c.toNat == 0x60

/-- The name behind the mark of an anchor or of a reference to one. -/
def nodeName : Scan String := do
  Scan.forward 1
  let name ← Scan.pass isNameChar
  Scan.expect (!name.isEmpty && endsName (← Scan.next))
  return String.ofList name

/-- The characters of tags that stand for themselves. -/
def isTagChar (c : Char) : Bool :=
  c.isAlphanum || "-;/?:@&=+$,_.!~*'()[]".toList.contains c

/-- Octets as two digits each behind a percent sign. -/
def escapedOctets : (fuel : Nat) → Scan (List UInt8)
  | 0 => return []
  | fuel + 1 => do
      if (← Scan.next) != some '%' then return []
      Scan.forward 1
      let digits := ((← get).rest.take 2).filterMap Json.hexValue?
      match digits with
      | [high, low] =>
          Scan.forward 2
          return UInt8.ofNat (high * 16 + low) :: (← escapedOctets fuel)
      | _ => Scan.wrong

/-- The characters of a tag up to the first that is none. -/
def tagChars : (fuel : Nat) → Scan (List Char)
  | 0 => return []
  | fuel + 1 => do
      let plain ← Scan.pass isTagChar
      if (← Scan.next) != some '%' then return plain
      match Utf8.decode? (← escapedOctets (fuel + 1)) with
      | some text => return plain ++ text.toList ++ (← tagChars fuel)
      | none => Scan.wrong

/-- The rest of a tag, or the beginning that a short form stands for. -/
def tagText : Scan String := do
  let text ← tagChars (← Scan.fuel)
  Scan.expect !text.isEmpty
  return String.ofList text

/-- A short form: a mark alone in front of a blank, or a name between two marks. -/
def tagHandle : Scan String := do
  Scan.expect ((← Scan.next) == some '!')
  Scan.forward 1
  if (← Scan.next) == some ' ' then return "!"
  let name ← Scan.pass isNameChar
  Scan.expect ((← Scan.next) == some '!')
  Scan.forward 1
  return String.ofList ('!' :: name ++ ['!'])

/-- A mark follows before the word ends. -/
def hasSecondMark (cs : List Char) : Bool :=
  (cs.takeWhile fun c => !endsBefore (some c)).contains '!'

/-- A tag: in full, a mark alone, or with a short form for its beginning. -/
def writtenTag : Scan WrittenTag := do
  let second ← Scan.ahead 1
  let tag : WrittenTag ←
    if second == some '<' then do
      Scan.forward 2
      let text ← tagText
      Scan.expect ((← Scan.next) == some '>')
      Scan.forward 1
      pure ⟨none, text⟩
    else if endsWord second then do
      Scan.forward 1
      pure ⟨none, "!"⟩
    else if hasSecondMark ((← get).rest.drop 1) then do
      let handle ← tagHandle
      pure ⟨some handle, ← tagText⟩
    else do
      Scan.forward 1
      pure ⟨some "!", ← tagText⟩
  Scan.expect (endsBefore (← Scan.next))
  return tag

def digitRow : Scan Int := do
  let digits ← Scan.pass Char.isDigit
  Scan.expect !digits.isEmpty
  Reading.int (String.ofList digits)

/-- A version: two numbers with a point between them. -/
def versionWord : Scan Directive := do
  discard (Scan.pass (· == ' '))
  let major ← digitRow
  Scan.expect ((← Scan.next) == some '.')
  Scan.forward 1
  discard digitRow
  Scan.expect (endsBefore (← Scan.next))
  return .version major

/-- A short form and the beginning of tags that it stands for. -/
def handleWords : Scan Directive := do
  discard (Scan.pass (· == ' '))
  let handle ← tagHandle
  Scan.expect ((← Scan.next) == some ' ')
  discard (Scan.pass (· == ' '))
  let beginning ← tagText
  Scan.expect (endsBefore (← Scan.next))
  return .handle handle beginning

/-- A directive on a line of its own; one with an unknown name is passed over. -/
def directiveLine : Scan Directive := do
  Scan.forward 1
  let name ← Scan.pass isNameChar
  Scan.expect (!name.isEmpty && endsBefore (← Scan.next))
  let directive : Directive ←
    if name == "YAML".toList then versionWord
    else if name == "TAG".toList then handleWords
    else do
      discard (Scan.pass fun c => !breaksLine c)
      pure .other
  Scan.lineEnd
  return directive

end AppOperator.Yaml
