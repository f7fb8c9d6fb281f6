/-!
# UTF-8

Reading characters from octets.  Octets that begin no character, or a character
that is broken off, are one malformed place up to the first octet that cannot
belong to it.
-/

set_option autoImplicit false

namespace AppOperator.Utf8

/-- What a first octet announces: how many octets follow, between which bounds the
next one lies, and the bits that it contributes. -/
structure Lead where
  following : Nat
  low : UInt8
  high : UInt8
  bits : Nat

/-- What an octet announces as the first of a character. -/
def lead? (octet : UInt8) : Option Lead :=
  let n := octet.toNat
  if n < 0x80 then some ⟨0, 0x80, 0xBF, n⟩
  else if n < 0xC2 then none
  else if n < 0xE0 then some ⟨1, 0x80, 0xBF, n - 0xC0⟩
  else if n = 0xE0 then some ⟨2, 0xA0, 0xBF, 0⟩
  else if n = 0xED then some ⟨2, 0x80, 0x9F, 0xD⟩
  else if n < 0xF0 then some ⟨2, 0x80, 0xBF, n - 0xE0⟩
  else if n = 0xF0 then some ⟨3, 0x90, 0xBF, 0⟩
  else if n < 0xF4 then some ⟨3, 0x80, 0xBF, n - 0xF0⟩
  else if n = 0xF4 then some ⟨3, 0x80, 0x8F, 4⟩
  else none

/-- Reads the octets that follow the first one; the bits so far are given. -/
def following : Nat → UInt8 → UInt8 → Nat → List UInt8 → Option Char × List UInt8
  | 0, _, _, bits, rest => (some (Char.ofNat bits), rest)
  | _ + 1, _, _, _, [] => (none, [])
  | count + 1, low, high, bits, octet :: rest =>
      if low ≤ octet && octet ≤ high then
        following count 0x80 0xBF (bits * 64 + (octet.toNat - 0x80)) rest
      else (none, octet :: rest)

theorem following_length_le (count : Nat) (low high : UInt8) (bits : Nat) (octets : List UInt8) :
    (following count low high bits octets).2.length ≤ octets.length := by
  induction count generalizing low high bits octets with
  | zero => simp [following]
  | succ count ih =>
      cases octets with
      | nil => simp [following]
      | cons octet rest =>
          simp only [following]
          split
          · exact Nat.le_succ_of_le (ih ..)
          · simp

/-- The first character, or a malformed place, and the octets after it. -/
def first (octet : UInt8) (rest : List UInt8) : Option Char × List UInt8 :=
  match lead? octet with
  | none => (none, rest)
  | some lead => following lead.following lead.low lead.high lead.bits rest

theorem first_length_le (octet : UInt8) (rest : List UInt8) :
    (first octet rest).2.length ≤ rest.length := by
  unfold first
  split
  · simp
  · exact following_length_le ..

/-- All characters, with malformed places as they come. -/
def places : List UInt8 → List (Option Char)
  | [] => []
  | octet :: rest => (first octet rest).1 :: places (first octet rest).2
termination_by octets => octets.length
decreasing_by
  have := first_length_le octet rest
  simp only [List.length_cons]
  omega

/-- The text of octets without a malformed place. -/
def decode? (octets : List UInt8) : Option String :=
  let places := places octets
  if places.all (·.isSome) then some (String.ofList (places.filterMap id)) else none

/-- Octets in which halves of surrogate pairs, as three octets each, have given way to
the replacement character. -/
def withoutHalves : List UInt8 → List UInt8
  | [] => []
  | 0xED :: second :: third :: rest =>
      if 0xA0 ≤ second && second ≤ 0xBF && 0x80 ≤ third && third ≤ 0xBF then
        0xEF :: 0xBF :: 0xBD :: withoutHalves rest
      else 0xED :: withoutHalves (second :: third :: rest)
  | octet :: rest => octet :: withoutHalves rest

/-- The text of octets in which halves of surrogate pairs may stand alone. -/
def decodeHalves? (octets : List UInt8) : Option String :=
  decode? (withoutHalves octets)

/-- The text of octets, with a replacement character for every malformed place. -/
def decodeLossy (octets : List UInt8) : String :=
  String.ofList ((places octets).map fun place => place.getD (Char.ofNat 0xFFFD))

def encode (text : String) : List UInt8 :=
  text.toUTF8.toList

end AppOperator.Utf8
