import AppOperator.Yaml.Shown

/-!
# YAML documents as they are sent

A document that is sent consists of nulls, truth values, numbers, texts, lists and
records with texts as keys.  Keys that are nulls, truth values or numbers are
written as texts; pairs are lists; anything else cannot be sent, nor can a part
that holds itself.
-/

set_option autoImplicit false

namespace AppOperator.Yaml

def keyText (d : Document) : Value → Except Fault String
  | .null => .ok "null"
  | .truth value => .ok (if value then "true" else "false")
  | .whole value => if isLong value then .error longNumber else .ok (Decimal.intText value)
  | .number value => .ok (Json.numberText value)
  | .text value => .ok value
  | other => .error (.unsendable (d.shape other))

namespace Document

/-- A value as it is sent, inside the parts `outer`.  These are different parts, so
there are no more levels than parts. -/
def plainIn (d : Document) : (fuel : Nat) → (outer : List Nat) → Value → Except Fault Json
  | _, _, .null => .ok .null
  | _, _, .truth value => .ok (.bool value)
  | _, _, .whole value => if isLong value then .error longNumber else .ok (.int value)
  | _, _, .number value => .ok (.float value)
  | _, _, .text value => .ok (.str value)
  | 0, _, .part _ => .error .endless
  | fuel + 1, outer, .part number =>
      let plain := plainIn d fuel (number :: outer)
      match d.part number with
      | .set _ => .error (.unsendable .set)
      | .list items => do
          if outer.contains number then throw .endless
          return .arr (← items.mapM plain)
      | .pairs pairs => do
          if outer.contains number then throw .endless
          return .arr (← pairs.mapM fun (key, value) => do
            return .arr [← plain key, ← plain value])
      | .record entries => do
          if outer.contains number then throw .endless
          let fields ← entries.mapM fun (key, value) => do
            return (← keyText d key, ← plain value)
          return .obj (Fields.ofPairs fields)
  | _, _, other => .error (.unsendable (d.shape other))

/-- A document as it is sent. -/
def plain (d : Document) : Except Fault Json :=
  d.plainIn (d.parts.size + 1) [] d.root

end Document

end AppOperator.Yaml
