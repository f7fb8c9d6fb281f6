/-!
# What a text that is no YAML document has wrong
-/

set_option autoImplicit false

namespace AppOperator.Yaml

/-- Why no document can be read from a text. -/
inductive Cause where
  /-- a character that no document may hold -/
  | character
  /-- a word that is not complete, or that may not begin where it stands -/
  | word
  /-- words in an order that no collection has -/
  | layout
  /-- a reference to nothing, or more than one document -/
  | reference
  /-- a value that does not fit its tag, or a key that cannot be one -/
  | content
deriving DecidableEq, Repr

end AppOperator.Yaml
