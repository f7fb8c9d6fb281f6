/-!
# Base 64

Octets written as characters of six bits each, four to three octets.  Characters
outside the alphabet are passed over.  A group that is not full is closed by as many
equals signs as it lacks characters, and nothing is read behind that; equals signs
elsewhere are passed over as well.
-/

set_option autoImplicit false

namespace AppOperator.Base64

/-- The six bits of a character of the alphabet. -/
def bits? (c : Char) : Option Nat :=
  if 'A' ≤ c && c ≤ 'Z' then some (c.toNat - 65)
  else if 'a' ≤ c && c ≤ 'z' then some (c.toNat - 71)
  else if c.isDigit then some (c.toNat + 4)
  else if c == '+' then some 62
  else if c == '/' then some 63
  else none

/-- What has been read of a group: the number of its characters, the bits that are in
no octet yet, and the equals signs behind its last character. -/
structure Group where
  count : Nat
  bits : Nat
  signs : Nat

/-- Takes the bits of a character into a group; from the second on each completes an octet. -/
def Group.take (g : Group) (bits : Nat) : List UInt8 × Group :=
  let all := g.bits * 64 + bits
  match g.count with
  | 0 => ([], ⟨1, bits, 0⟩)
  | 1 => ([UInt8.ofNat (all / 16)], ⟨2, all % 16, 0⟩)
  | 2 => ([UInt8.ofNat (all / 4)], ⟨3, all % 4, 0⟩)
  | _ => ([UInt8.ofNat all], ⟨0, 0, 0⟩)

/-- The octets of characters that go on with a group. -/
def decodeFrom (g : Group) : List Char → Option (List UInt8)
  | [] => if g.count == 0 then some [] else none
  | c :: rest =>
      if c == '=' then
        if g.count ≥ 2 then
          if g.count + (g.signs + 1) ≥ 4 then some []
          else decodeFrom { g with signs := g.signs + 1 } rest
        else decodeFrom g rest
      else
        match bits? c with
        | none => decodeFrom g rest
        | some bits =>
            let (octets, g) := g.take bits
            (decodeFrom g rest).map (octets ++ ·)

def decode? (cs : List Char) : Option (List UInt8) :=
  decodeFrom ⟨0, 0, 0⟩ cs

end AppOperator.Base64
