import AppOperator.Text.Utf8

/-!
# The encoding of a document

A document that comes as octets says by its first octets how it is encoded: by a
mark in front of it, or by where its zero octets are, as a document begins with
two characters of the first 128.
-/

set_option autoImplicit false

namespace AppOperator

inductive Encoding where
  | utf8
  | utf16 (bigEndian : Bool)
  | utf32 (bigEndian : Bool)
deriving DecidableEq, Repr

namespace Encoding

/-- An encoding that a mark announces, with the length of the mark. -/
def marked? : List UInt8 → Option (Encoding × Nat)
  | 0x00 :: 0x00 :: 0xFE :: 0xFF :: _ => some (.utf32 true, 4)
  | 0xFF :: 0xFE :: 0x00 :: 0x00 :: _ => some (.utf32 false, 4)
  | 0xFE :: 0xFF :: _ => some (.utf16 true, 2)
  | 0xFF :: 0xFE :: _ => some (.utf16 false, 2)
  | 0xEF :: 0xBB :: 0xBF :: _ => some (.utf8, 3)
  | _ => none

/-- The encoding that the places of zero octets tell. -/
def ofZeros : List UInt8 → Encoding
  | a :: b :: c :: d :: _ =>
      if a == 0 then (if b == 0 then .utf32 true else .utf16 true)
      else if b == 0 then (if c == 0 && d == 0 then .utf32 false else .utf16 false)
      else .utf8
  | [a, b] => if a == 0 then .utf16 true else if b == 0 then .utf16 false else .utf8
  | _ => .utf8

/-- Two octets as one number. -/
def pairValue (bigEndian : Bool) (a b : UInt8) : Nat :=
  if bigEndian then a.toNat * 256 + b.toNat else b.toNat * 256 + a.toNat

/-- The units of two octets each. -/
def units16 (bigEndian : Bool) : List UInt8 → Option (List Nat)
  | [] => some []
  | a :: b :: rest => (units16 bigEndian rest).map (pairValue bigEndian a b :: ·)
  | [_] => none

/-- The character of a code; half of a pair that is alone has none of its own, and
the replacement character stands for it. -/
def charOf (code : Nat) : Char :=
  if code.isValidChar then Char.ofNat code else Char.ofNat 0xFFFD

/-- The characters that units of two octets write. -/
def chars16 : List Nat → List Char
  | [] => []
  | [unit] => [charOf unit]
  | high :: low :: rest =>
      if 0xD800 ≤ high && high < 0xDC00 && 0xDC00 ≤ low && low < 0xE000 then
        charOf (0x10000 + (high - 0xD800) * 0x400 + (low - 0xDC00)) :: chars16 rest
      else charOf high :: chars16 (low :: rest)

/-- The characters that four octets each write. -/
def chars32 (bigEndian : Bool) : List UInt8 → Option (List Char)
  | [] => some []
  | a :: b :: c :: d :: rest =>
      let high := if bigEndian then pairValue true a b else pairValue false c d
      let low := if bigEndian then pairValue true c d else pairValue false a b
      let n := high * 0x10000 + low
      if n < 0x110000 then (chars32 bigEndian rest).map (charOf n :: ·) else none
  | _ => none

def decode? : Encoding → List UInt8 → Option String
  | .utf8, octets => Utf8.decodeHalves? octets
  | .utf16 bigEndian, octets => (units16 bigEndian octets).map (String.ofList ∘ chars16)
  | .utf32 bigEndian, octets => (chars32 bigEndian octets).map String.ofList

def textOf? (octets : List UInt8) : Option String :=
  match marked? octets with
  | some (encoding, length) => encoding.decode? (octets.drop length)
  | none => (ofZeros octets).decode? octets

end Encoding

end AppOperator
