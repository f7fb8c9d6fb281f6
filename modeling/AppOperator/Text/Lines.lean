/-!
# Lines of text

Line breaks come in several forms.  A stored text is read with all of them as
line feeds; a text that is laid out over several lines is cut at every character
that ends a line.
-/

set_option autoImplicit false

namespace AppOperator.Text

/-- Carriage returns, alone or before a line feed, as line feeds. -/
def unifyLineBreaks : List Char → List Char
  | '\r' :: '\n' :: rest => '\n' :: unifyLineBreaks rest
  | '\r' :: rest => '\n' :: unifyLineBreaks rest
  | c :: rest => c :: unifyLineBreaks rest
  | [] => []

/-- The characters that end a line of a layout. -/
def endsLine (c : Char) : Bool :=
  let n := c.toNat
  (10 ≤ n && n ≤ 13) || (0x1C ≤ n && n ≤ 0x1E) || n == 0x85 || n == 0x2028 || n == 0x2029

/-- Puts a character in front of the first line. -/
def ontoFirst (c : Char) : List (List Char) → List (List Char)
  | [] => [[c]]
  | line :: lines => (c :: line) :: lines

/-- The lines of a text without their ends; no line follows the last end. -/
def linesOf : List Char → List (List Char)
  | [] => []
  | '\r' :: '\n' :: rest => [] :: linesOf rest
  | c :: rest => if endsLine c then [] :: linesOf rest else ontoFirst c (linesOf rest)

/-- The lines of a stored text, whatever ends them, each without its end. -/
def storedLines (s : String) : List String :=
  let pieces := (unifyLineBreaks s.toList).splitBy fun c _ => c != '\n'
  pieces.map fun piece => String.ofList (piece.filter (· != '\n'))

end AppOperator.Text
