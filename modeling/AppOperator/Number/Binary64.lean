/-!
# Binary floating-point numbers by their bits

A number of the binary interchange format with 64 bits is kept as its bit
pattern, so that equality of numbers in documents is decidable and every
conversion below is exact integer arithmetic.  A finite pattern denotes
`± m · 2 ^ q` with natural `m` and integer `q`; reading a decimal rounds the
exact quotient to the nearest such number, a tie going to the even `m`.
-/

set_option autoImplicit false

namespace AppOperator

def twoTo (exponent : Nat) : Nat :=
  Nat.pow 2 exponent

def tenTo (exponent : Nat) : Nat :=
  Nat.pow 10 exponent

/-- A binary floating-point number with 64 bits. -/
structure Binary64 where
  bits : UInt64
deriving DecidableEq, Inhabited

namespace Binary64

def isNegative (x : Binary64) : Bool :=
  x.bits.toNat / twoTo 63 == 1

/-- The eleven bits of the exponent. -/
def exponentField (x : Binary64) : Nat :=
  x.bits.toNat / twoTo 52 % twoTo 11

/-- The fifty-two bits of the fraction. -/
def fractionField (x : Binary64) : Nat :=
  x.bits.toNat % twoTo 52

def isNaN (x : Binary64) : Bool :=
  x.exponentField == 2047 && x.fractionField != 0

def isInfinite (x : Binary64) : Bool :=
  x.exponentField == 2047 && x.fractionField == 0

def isFinite (x : Binary64) : Bool :=
  x.exponentField != 2047

/-- The natural `m` of a finite number `± m · 2 ^ q`. -/
def significand (x : Binary64) : Nat :=
  if x.exponentField == 0 then x.fractionField else x.fractionField + twoTo 52

/-- The integer `q` of a finite number `± m · 2 ^ q`. -/
def scale (x : Binary64) : Int :=
  if x.exponentField == 0 then -1074 else (x.exponentField : Int) - 1075

/-- Puts the sign in front of a magnitude given by its bits. -/
def ofMagnitude (negative : Bool) (magnitude : Nat) : Binary64 :=
  ⟨UInt64.ofNat (if negative then twoTo 63 + magnitude else magnitude)⟩

def infinity (negative : Bool) : Binary64 :=
  ofMagnitude negative (2047 * twoTo 52)

def nan : Binary64 :=
  ofMagnitude false (2047 * twoTo 52 + twoTo 51)

def zero (negative : Bool) : Binary64 :=
  ofMagnitude negative 0

/-- The quotient of two naturals, rounded to nearest, a tie going to even. -/
def roundQuotient (numerator denominator : Nat) : Nat :=
  let quotient := numerator / denominator
  let twice := 2 * (numerator % denominator)
  if twice > denominator || (twice == denominator && quotient % 2 == 1) then
    quotient + 1
  else
    quotient

def scaledQuotient (numerator denominator : Nat) (q : Int) (divide : Nat → Nat → Nat) : Nat :=
  if q ≥ 0 then divide numerator (denominator * twoTo q.toNat)
  else divide (numerator * twoTo (-q).toNat) denominator

/-- The number nearest to `± numerator / denominator`. -/
def ofRatio (negative : Bool) (numerator denominator : Nat) : Binary64 :=
  if numerator == 0 then zero negative
  else
    let low : Int := (numerator.log2 : Int) - (denominator.log2 : Int) - 53
    let q := max low (-1074)
    let q := if scaledQuotient numerator denominator q (· / ·) ≥ twoTo 53 then q + 1 else q
    let m := scaledQuotient numerator denominator q roundQuotient
    let magnitude := (q + 1074).toNat * twoTo 52 + m
    if magnitude ≥ 2047 * twoTo 52 then infinity negative else ofMagnitude negative magnitude

/-- The number nearest to `± digits · 10 ^ exponent`.  Exponents beyond every
finite number are cut off before the power is formed. -/
def ofDecimal (negative : Bool) (digits : Nat) (exponent : Int) : Binary64 :=
  if digits == 0 then zero negative
  else
    let top : Int := ((digits.log2 : Int) * 30103) / 100000 + exponent
    if top > 310 then infinity negative
    else if top < -400 then zero negative
    else if exponent ≥ 0 then ofRatio negative (digits * tenTo exponent.toNat) 1
    else ofRatio negative digits (tenTo (-exponent).toNat)

def ofInt (n : Int) : Binary64 :=
  ofRatio (n < 0) n.natAbs 1

def toFloat (x : Binary64) : Float :=
  Float.ofBits x.bits

def ofFloat (x : Float) : Binary64 :=
  ⟨x.toBits⟩

/-- The integer a number is equal to, if it is one. -/
def toInt? (x : Binary64) : Option Int :=
  if !x.isFinite then none
  else
    let m := x.significand
    let q := x.scale
    let magnitude : Option Nat :=
      if q ≥ 0 then some (m * twoTo q.toNat)
      else if m % twoTo (-q).toNat == 0 then some (m / twoTo (-q).toNat)
      else none
    magnitude.map fun k => if x.isNegative then -(k : Int) else (k : Int)

/-- A finite number without a fractional part. -/
def isIntegral (x : Binary64) : Bool :=
  x.toInt?.isSome

/-- Positive and negative zero. -/
def isZero (x : Binary64) : Bool :=
  x.isFinite && x.significand == 0

/-- The finite number as a fraction: signed numerator and denominator. -/
def toRatio (x : Binary64) : Int × Nat :=
  let signed (k : Nat) : Int := if x.isNegative then -(k : Int) else (k : Int)
  if x.scale ≥ 0 then (signed (x.significand * twoTo x.scale.toNat), 1)
  else (signed x.significand, twoTo (-x.scale).toNat)

/-- Strictly below an integer; no order holds for a number that is not one. -/
def ltInt (x : Binary64) (n : Int) : Bool :=
  if x.isNaN then false
  else if x.isInfinite then x.isNegative
  else decide (x.toRatio.1 < n * x.toRatio.2)

/-- Strictly above an integer; no order holds for a number that is not one. -/
def gtInt (x : Binary64) (n : Int) : Bool :=
  if x.isNaN then false
  else if x.isInfinite then !x.isNegative
  else decide (x.toRatio.1 > n * x.toRatio.2)

/-- Equality of value: the two zeros are equal, and what is not a number equals nothing. -/
def alike (x y : Binary64) : Bool :=
  !x.isNaN && (x == y || (x.isZero && y.isZero))

end Binary64

end AppOperator
