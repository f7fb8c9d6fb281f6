import AppOperator.Text.Printable

/-!
# Quoted text

A text in quotes, as messages show it: single quotes, or double ones when the
text holds a single quote and no double one.  The quote in use, the backslash
and what is not printable are escaped, the latter by its code point.
-/

set_option autoImplicit false

namespace AppOperator.Text

/-- `width` hexadecimal digits, in lower case. -/
def hex (width n : Nat) : List Char :=
  let ds := Nat.toDigits 16 n
  List.replicate (width - ds.length) '0' ++ ds

def quotedChar (quote c : Char) : List Char :=
  if c == quote || c == '\\' then ['\\', c]
  else if c == '\n' then ['\\', 'n']
  else if c == '\r' then ['\\', 'r']
  else if c == '\t' then ['\\', 't']
  else if isPrintable c then [c]
  else if c.toNat < 0x100 then '\\' :: 'x' :: hex 2 c.toNat
  else if c.toNat < 0x10000 then '\\' :: 'u' :: hex 4 c.toNat
  else '\\' :: 'U' :: hex 8 c.toNat

def quoteFor (cs : List Char) : Char :=
  if cs.contains '\'' && !cs.contains '"' then '"' else '\''

def quotedChars (cs : List Char) : List Char :=
  let quote := quoteFor cs
  quote :: cs.flatMap (quotedChar quote) ++ [quote]

def quoted (s : String) : String :=
  String.ofList (quotedChars s.toList)

end AppOperator.Text
