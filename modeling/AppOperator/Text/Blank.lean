/-!
# Blank characters

Two sets of blanks are in use.  *Spaces* are what the ends of configured values
are cleared of; they contain the four information separators.  *White space* is
the property of the character standard, used where numbers are read from the
fields of a resource.
-/

set_option autoImplicit false

namespace AppOperator.Text

def isWhiteSpace (c : Char) : Bool :=
  let n := c.toNat
  (9 ≤ n && n ≤ 13) || n == 0x20 || n == 0x85 || n == 0xA0 || n == 0x1680
    || (0x2000 ≤ n && n ≤ 0x200A) || n == 0x2028 || n == 0x2029 || n == 0x202F
    || n == 0x205F || n == 0x3000

/-- White space and the information separators U+001C to U+001F. -/
def isSpace (c : Char) : Bool :=
  isWhiteSpace c || (0x1C ≤ c.toNat && c.toNat ≤ 0x1F)

/-- The blanks among the first 128 characters that end words in byte text. -/
def isByteSpace (c : Char) : Bool :=
  (9 ≤ c.toNat && c.toNat ≤ 13) || c == ' '

/-- A list without the elements in `p` at its two ends. -/
def trimEnds {α : Type} (p : α → Bool) (xs : List α) : List α :=
  ((xs.dropWhile p).reverse.dropWhile p).reverse

/-- A text without the characters in `p` at its two ends. -/
def trimBy (p : Char → Bool) (s : String) : String :=
  String.ofList (trimEnds p s.toList)

/-- A text without the spaces at its two ends. -/
def trim (s : String) : String :=
  trimBy isSpace s

/-- A text without the given character at its end. -/
def trimEnd (c : Char) (s : String) : String :=
  String.ofList ((s.toList.reverse.dropWhile (· == c)).reverse)

/-- Pieces of a list between the occurrences of a separator of one element. -/
def splitOnChar (sep : Char) : List Char → List (List Char)
  | [] => [[]]
  | c :: rest =>
      match splitOnChar sep rest with
      | [] => [[c]]
      | piece :: pieces => if c == sep then [] :: piece :: pieces else (c :: piece) :: pieces

/-- Pieces of a text between the occurrences of a character; one more than there are occurrences. -/
def split (sep : Char) (s : String) : List String :=
  (splitOnChar sep s.toList).map String.ofList

end AppOperator.Text
