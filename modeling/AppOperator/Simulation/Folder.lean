import AppOperator.Command.Surroundings

/-!
# A working directory in memory

A folder holds files that are named by their paths without dots.  A path leads from
the folder, or from the root, part by part through directories: an empty part and a
single dot stay where they are, two dots lead up.  Nothing is known of what lies
above the folder except that it is there.
-/

set_option autoImplicit false

namespace AppOperator

open Command (StoredFile)

/-- Where a path has led to: to what has a name, or above the folder. -/
inductive Place where
  | named (absolute : Bool) (parts : List String)
  | above
deriving DecidableEq, Repr

namespace Place

def start (path : String) : Place :=
  .named (path.startsWith "/") []

/-- The name of a place in the form in which files are named. -/
def nameOf (absolute : Bool) (parts : List String) : String :=
  (if absolute then "/" else "") ++ "/".intercalate parts

/-- The place above; there is none above the root. -/
def up : Place → Place
  | .named true parts => .named true parts.dropLast
  | .named false [] => .above
  | .named false parts => .named false parts.dropLast
  | .above => .above

end Place

/-- Files by their names; the directories that a name leads through are there as well. -/
structure Folder where
  files : List (String × StoredFile)

namespace Folder

/-- What stands at a place. -/
def at? (f : Folder) : Place → Option StoredFile
  | .above => some .directory
  | .named _ [] => some .directory
  | .named absolute parts =>
      let name := Place.nameOf absolute parts
      (f.files.lookup name).or
        (if f.files.any fun file => file.1.startsWith (name ++ "/") then some .directory else none)

/-- Follows one part of a path, which leads on only from a directory. -/
def follow? (f : Folder) (place : Place) (part : String) : Option Place :=
  match f.at? place with
  | some .directory =>
      if part == "" || part == "." then some place
      else if part == ".." then some place.up
      else
        match place with
        | .named absolute parts => some (.named absolute (parts ++ [part]))
        | .above => none
  | _ => none

/-- What stands under a path; the empty path leads nowhere. -/
def find? (f : Folder) (path : String) : Option StoredFile :=
  if path == "" then none
  else ((Text.split '/' path).foldlM f.follow? (Place.start path)).bind f.at?

end Folder

end AppOperator
