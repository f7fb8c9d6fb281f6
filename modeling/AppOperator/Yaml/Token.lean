/-!
# Tokens of a YAML text

The words and marks of a text, together with the marks that its indentation
stands for: where a block collection begins and ends, and where a key begins that
has no mark of its own.
-/

set_option autoImplicit false

namespace AppOperator.Yaml

/-- What a line at the head of a document lays down. -/
inductive Directive where
  /-- the version, of which only the first number counts -/
  | version (major : Int)
  /-- a short form for the beginning of tags -/
  | handle (handle beginning : String)
  | other
deriving DecidableEq, Repr

/-- A tag as it is written: a short form for its beginning, if there is one, and the rest. -/
structure WrittenTag where
  handle : Option String
  rest : String
deriving DecidableEq, Repr

inductive Token where
  | streamEnd
  | directive (directive : Directive)
  | documentStart
  | documentEnd
  | blockListStart
  | blockRecordStart
  | blockEnd
  | flowListStart
  | flowListEnd
  | flowRecordStart
  | flowRecordEnd
  | key
  | value
  | blockEntry
  | flowEntry
  | alias (name : String)
  | anchor (name : String)
  | tag (tag : WrittenTag)
  | scalar (text : String) (plain : Bool)
deriving DecidableEq, Repr

end AppOperator.Yaml
