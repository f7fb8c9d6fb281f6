/-!
# Tags

A tag says what a node stands for.  Tags of the common schema have names with a
common beginning; every other tag stands for nothing that is known here.
-/

set_option autoImplicit false

namespace AppOperator.Yaml

/-- What a node stands for. -/
inductive Tag where
  | null
  | truth
  | whole
  | number
  | text
  | octets
  | instant
  | list
  | record
  /-- a list of pairs without repeated keys -/
  | ordered
  /-- a list of pairs -/
  | pairs
  /-- a record of which only the keys count -/
  | set
  /-- the key that merges other records -/
  | merge
  /-- the key of a default value -/
  | fallback
  /-- anything that has no known meaning -/
  | foreign
deriving DecidableEq, Repr

namespace Tag

/-- How the names of the common schema begin. -/
def commonSchema : String := "tag:yaml.org,2002:"

def common : List (String × Tag) :=
  [("null", .null), ("bool", .truth), ("int", .whole), ("float", .number), ("str", .text),
    ("binary", .octets), ("timestamp", .instant), ("seq", .list), ("map", .record),
    ("omap", .ordered), ("pairs", .pairs), ("set", .set), ("merge", .merge),
    ("value", .fallback)]

def ofName (name : String) : Tag :=
  ((common.find? fun entry => commonSchema ++ entry.1 == name).map (·.2)).getD .foreign

end Tag

end AppOperator.Yaml
