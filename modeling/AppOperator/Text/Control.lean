import AppOperator.Text.Blank

/-!
# Control sequences

Texts may carry sequences that a terminal obeys and does not show: an escape
character, an opening bracket, parameters and a final character, or a link around
its text.  Styles are the sequences that set colours and the like; they have a
letter at their end and only digits, semicolons and question marks before it.
-/

set_option autoImplicit false

namespace AppOperator.Text

/-- The characters with every match replaced.  A match at the start of what is left is
given by its width and by what stands in its place; `skip` counts the characters of a
match that are still to be passed over. -/
def replaceMatches (match? : List Char → Option (Nat × List Char)) : (skip : Nat) → List Char → List Char
  | _, [] => []
  | skip + 1, _ :: rest => replaceMatches match? skip rest
  | 0, c :: rest =>
      match match? (c :: rest) with
      | some (width + 1, replacement) => replacement ++ replaceMatches match? width rest
      | _ => c :: replaceMatches match? 0 rest

def escape : Char := Char.ofNat 27

def isAsciiLetter (c : Char) : Bool :=
  ('a' ≤ c && c ≤ 'z') || ('A' ≤ c && c ≤ 'Z')

def styleWidth? (cs : List Char) : Option Nat :=
  match cs with
  | esc :: '[' :: rest =>
      let parameters := rest.takeWhile fun c => c.isDigit || c == ';' || c == '?'
      match rest.drop parameters.length with
      | final :: _ =>
          if esc == escape && isAsciiLetter final then some (parameters.length + 3) else none
      | [] => none
  | _ => none

def withoutStyles (s : String) : String :=
  String.ofList
    (replaceMatches (fun cs => (styleWidth? cs).map fun width => (width, [])) 0 s.toList)

def isBetween (low high : Nat) (c : Char) : Bool :=
  low ≤ c.toNat && c.toNat ≤ high

/-- The width of a control sequence at the start of the characters. -/
def controlWidth? (cs : List Char) : Option Nat :=
  match cs with
  | esc :: '[' :: rest =>
      let parameters := rest.takeWhile (isBetween 0x30 0x3F)
      let rest := rest.drop parameters.length
      let between := rest.takeWhile (isBetween 0x20 0x2F)
      match rest.drop between.length with
      | final :: _ =>
          if esc == escape && isBetween 0x40 0x7E final then
            some (parameters.length + between.length + 3)
          else none
      | [] => none
  | _ => none

/-- The characters behind a given start, if they begin with it. -/
def behind? (start cs : List Char) : Option (List Char) :=
  if start.isPrefixOf cs then some (cs.drop start.length) else none

/-- Everything before the next escape character, of which there must be something, and
what follows. -/
def untilEscape? (cs : List Char) : Option (List Char × List Char) :=
  let run := cs.takeWhile (· != escape)
  if run.isEmpty then none else some (run, cs.drop run.length)

def isWordChar (c : Char) : Bool :=
  c.isAlphanum || c == '_' || 128 ≤ c.toNat

/-- Names with values, one behind the other. -/
def isAssignments (cs : List Char) : Bool :=
  let parts := splitOnChar '=' cs
  let ends := [parts.head?.getD [], parts.getLast?.getD []]
  parts.length ≥ 2 && cs.all (fun c => c == '=' || isWordChar c)
    && ends.all (!·.isEmpty) && (parts.drop 1).dropLast.all (·.length ≥ 2)

/-- The parameters of a link: assignments that colons may end. -/
def isLinkParameters (cs : List Char) : Bool :=
  let body := if cs.getLast? == some ':' then cs.dropLast else cs
  cs.isEmpty || (splitOnChar ':' body).all isAssignments

/-- A link at the start of the characters: its width and its text. -/
def link? (cs : List Char) : Option (Nat × List Char) := do
  let rest ← behind? [escape, ']', '8', ';'] cs
  let parameters := rest.takeWhile (· != ';')
  if !isLinkParameters parameters then none
  let rest ← behind? [';'] (rest.drop parameters.length)
  let (_, rest) ← untilEscape? rest
  let rest ← behind? [escape, '\\'] rest
  let (text, rest) ← untilEscape? rest
  let rest ← behind? [escape, ']', '8', ';', ';', escape, '\\'] rest
  return (cs.length - rest.length, text)

/-- A control sequence or a link at the start of the characters: its width, and what
of it is shown. -/
def control? (cs : List Char) : Option (Nat × List Char) :=
  match controlWidth? cs with
  | some width => some (width, [])
  | none => link? cs

/-- What is shown of a text. -/
def visible (cs : List Char) : List Char :=
  replaceMatches control? 0 cs

/-- A text has something in it that is not shown. -/
def hasControl : List Char → Bool
  | [] => false
  | c :: rest => (control? (c :: rest)).isSome || hasControl rest

/-- The characters with every occurrence of some others replaced; nothing occurs nowhere. -/
def replaceAll (old new cs : List Char) : List Char :=
  replaceMatches (fun cs => if old.isPrefixOf cs then some (old.length, new) else none) 0 cs

/-- Carriage returns before line feeds are left out. -/
def withoutCarriage : List Char → List Char
  | '\r' :: '\n' :: rest => '\n' :: withoutCarriage rest
  | c :: rest => c :: withoutCarriage rest
  | [] => []

end AppOperator.Text
