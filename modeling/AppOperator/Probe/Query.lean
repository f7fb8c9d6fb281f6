import AppOperator.Text.Utf8
import AppOperator.Text.Blank

/-!
# Query strings

Pairs of a name and a value with `&` between them.  A plus stands for a space,
and `%` with two hexadecimal digits for an octet.
-/

set_option autoImplicit false

namespace AppOperator.Query

def hexDigit? (c : Char) : Option Nat :=
  if c.isDigit then some (c.toNat - '0'.toNat)
  else if 'a' ≤ c && c ≤ 'f' then some (c.toNat - 'a'.toNat + 10)
  else if 'A' ≤ c && c ≤ 'F' then some (c.toNat - 'A'.toNat + 10)
  else none

/-- What a text writes: octets by their escapes, and characters. -/
inductive Written where
  | octet (value : UInt8)
  | char (value : Char)
deriving DecidableEq

/-- The pieces of a text with its escapes resolved; an incomplete escape stands for
itself.  A character beyond the first 128 is not written by an escape, and each of
its octets counts as a character. -/
def written : List Char → List Written
  | [] => []
  | '%' :: high :: low :: rest =>
      match hexDigit? high, hexDigit? low with
      | some h, some l => .octet (UInt8.ofNat (16 * h + l)) :: written rest
      | _, _ => .octet 0x25 :: written (high :: low :: rest)
  | '+' :: rest => .octet 0x20 :: written rest
  | c :: rest =>
      (if c.toNat < 0x80 then [.octet (UInt8.ofNat c.toNat)]
        else (Utf8.encode (String.singleton c)).map fun octet => .char (Char.ofNat octet.toNat))
      ++ written rest

/-- The characters of a text: runs of octets are decoded as far as they go. -/
def charsOf (run : List UInt8) : List Written → List Char
  | [] => (Utf8.decodeLossy run.reverse).toList
  | .octet value :: rest => charsOf (value :: run) rest
  | .char c :: rest => (Utf8.decodeLossy run.reverse).toList ++ c :: charsOf [] rest

/-- A name or a value as it is meant. -/
def unescape (text : List Char) : String :=
  String.ofList (charsOf [] (written text))

/-- The pair that a part of the query writes; without `=` its value is empty. -/
def pair (part : List Char) : String × String :=
  (unescape (part.takeWhile (· != '=')), unescape ((part.dropWhile (· != '=')).drop 1))

def pairs (query : String) : List (String × String) :=
  ((Text.splitOnChar '&' query.toList).filter fun part => !part.isEmpty).map pair

/-- The value of a name; the last one counts. -/
def value? (query name : String) : Option String :=
  ((pairs query).reverse.find? fun entry => entry.1 == name).map (·.2)

end AppOperator.Query
