import AppOperator.Schema
import AppOperator.Yaml.Shown

/-!
# Values under a schema

A value of a YAML document, together with the document whose parts it refers to,
can be checked by a schema.  Only the fields of a record that are named by texts
are seen.
-/

set_option autoImplicit false

namespace AppOperator.Yaml

/-- A value of a document. -/
structure Focus where
  document : Document
  value : Value

namespace Focus

def aspect (f : Focus) : Aspect Focus :=
  match f.value with
  | .text s => .text s
  | .whole n => .whole n
  | .number x => .fraction x
  | value =>
      match f.document.entries? value with
      | some entries => .record fun name => (entries.get? (.text name)).map (⟨f.document, ·⟩)
      | none => .other

instance : Checkable Focus := ⟨aspect, fun f => f.document.shown f.value⟩

end Focus

end AppOperator.Yaml
