import AppOperator.Number.Binary64

/-!
# Decimal text of numbers

Three ways to write a binary number in decimal digits: the fewest digits that
read back to the same number, a fixed count of places, and a fixed count of
significant digits.  All three work on the exact value as a fraction.
-/

set_option autoImplicit false

namespace AppOperator.Decimal

/-- Decimal digits of a natural, most significant first. -/
def digits (n : Nat) : List Char :=
  Nat.toDigits 10 n

def natText (n : Nat) : String :=
  String.ofList (digits n)

def intText (n : Int) : String :=
  if n < 0 then "-" ++ natText n.natAbs else natText n.natAbs

/-- The digits without the zeros at their end. -/
def trimZeros (ds : List Char) : List Char :=
  (ds.reverse.dropWhile (· == '0')).reverse

/-- At least `width` digits, filled with zeros at the front. -/
def padLeft (width : Nat) (ds : List Char) : List Char :=
  List.replicate (width - ds.length) '0' ++ ds

/-- Digits and the place of the decimal point: `0.d₁d₂… · 10 ^ point`. -/
structure Digits where
  digits : List Char
  point : Int
deriving Repr, DecidableEq

/-- `10 ^ e` as a fraction. -/
def powerOfTen (e : Int) : Nat × Nat :=
  if e ≥ 0 then (tenTo e.toNat, 1) else (1, tenTo (-e).toNat)

/-- The exponent `k` with `10 ^ (k - 1) ≤ numerator / denominator < 10 ^ k`. -/
def decimalExponent (numerator denominator : Nat) : Int :=
  let guess : Int :=
    (((numerator.log2 : Int) - (denominator.log2 : Int)) * 30103) / 100000 - 1
  let reaches (k : Int) : Bool :=
    let (p, r) := powerOfTen k
    numerator * r ≥ denominator * p
  let climb (k : Int) : Int := if reaches k then k + 1 else k
  climb (climb (climb (climb guess)))

/-- The decimals that read back to a positive finite number: those between the
midpoints to its two neighbours, the ends included when its significand is even. -/
structure Interval where
  low : Nat
  value : Nat
  high : Nat
  denominator : Nat
  closed : Bool

def Interval.of (x : Binary64) : Interval :=
  let m := x.significand
  let q := x.scale
  let narrow := m == twoTo 52 && x.exponentField > 1
  let (low, value, high) := if narrow then (4 * m - 1, 4 * m, 4 * m + 2) else (4 * m - 2, 4 * m, 4 * m + 2)
  let shift := q - 2
  if shift ≥ 0 then
    ⟨low * twoTo shift.toNat, value * twoTo shift.toNat, high * twoTo shift.toNat, 1, m % 2 == 0⟩
  else
    ⟨low, value, high, twoTo (-shift).toNat, m % 2 == 0⟩

def Interval.contains (i : Interval) (d : Nat) (e : Int) : Bool :=
  let (p, r) := powerOfTen e
  let scaled := d * p * i.denominator
  if i.closed then i.low * r ≤ scaled && scaled ≤ i.high * r
  else i.low * r < scaled && scaled < i.high * r

/-- Of the two neighbours of the value on the grid of `count` digits, the one
that reads back; of two, the nearer; of two equally near, the even one. -/
def Interval.onGrid? (i : Interval) (k : Int) (count : Nat) : Option (Nat × Int) :=
  let e := k - count
  let (p, r) := powerOfTen e
  let below := (i.value * r) / (i.denominator * p)
  let rest := (i.value * r) % (i.denominator * p)
  let above := below + 1
  match i.contains below e, i.contains above e with
  | true, true =>
      if 2 * rest < i.denominator * p then some (below, e)
      else if 2 * rest > i.denominator * p then some (above, e)
      else some (if below % 2 == 0 then below else above, e)
  | true, false => some (below, e)
  | false, true => some (above, e)
  | false, false => none

/-- The first grid, from one digit on, that holds a decimal which reads back. -/
def Interval.search (i : Interval) (k : Int) : (count remaining : Nat) → Nat × Int
  | count, 0 => (i.onGrid? k count).getD (0, 0)
  | count, remaining + 1 =>
      match i.onGrid? k count with
      | some found => found
      | none => i.search k (count + 1) remaining

/-- The fewest digits that read back to a finite number other than zero. -/
def shortest (x : Binary64) : Digits :=
  let i := Interval.of x
  let k := decimalExponent i.value i.denominator
  let (d, e) := i.search k 1 20
  let ds := digits d
  ⟨trimZeros ds, (ds.length : Int) + e⟩

/-- Two digits at least, after the sign, as exponents are written. -/
def exponentText (e : Int) : String :=
  (if e < 0 then "-" else "+") ++ String.ofList (padLeft 2 (digits e.natAbs))

/-- Scientific notation with as many digits as given. -/
def scientific (d : Digits) : String :=
  let fraction := d.digits.drop 1
  String.ofList (d.digits.take 1) ++ (if fraction.isEmpty then "" else "." ++ String.ofList fraction)
    ++ "e" ++ exponentText (d.point - 1)

/-- Positional notation with as many digits as given; `whole` is what follows a
number without a fraction. -/
def positional (d : Digits) (whole : String) : String :=
  if d.point ≤ 0 then
    "0." ++ String.ofList (List.replicate (-d.point).toNat '0' ++ d.digits)
  else
    let n := d.point.toNat
    if d.digits.length ≤ n then
      String.ofList (d.digits ++ List.replicate (n - d.digits.length) '0') ++ whole
    else
      String.ofList (d.digits.take n) ++ "." ++ String.ofList (d.digits.drop n)

/-- How numbers with a fraction are written in documents and messages: the
shortest digits, positional from four zeros behind the point up to sixteen
digits before it, with `.0` kept. -/
def documentText (x : Binary64) : String :=
  let sign := if x.isNegative then "-" else ""
  if x.isNaN then "nan"
  else if x.isInfinite then sign ++ "inf"
  else if x.isZero then sign ++ "0.0"
  else
    let d := shortest x
    if -4 < d.point && d.point ≤ 16 then sign ++ positional d ".0"
    else sign ++ scientific d

/-- Exactly `places` digits behind the point, a half going to the even neighbour. -/
def fixed (places : Nat) (x : Binary64) : String :=
  let sign := if x.isNegative then "-" else ""
  if x.isNaN then "nan"
  else if x.isInfinite then sign ++ "inf"
  else
    let (n, d) := x.toRatio
    let scaled := Binary64.roundQuotient (n.natAbs * tenTo places) d
    let ds := padLeft (places + 1) (digits scaled)
    let whole := ds.length - places
    let fraction := String.ofList (ds.drop whole)
    sign ++ String.ofList (ds.take whole) ++ (if places == 0 then "" else "." ++ fraction)

/-- Delays and instants have six places. -/
def seconds (x : Binary64) : String :=
  fixed 6 x

/-- At most `count` significant digits, zeros at the end dropped; positional
while the exponent is between `-4` and `count - 1`. -/
def significant (count : Nat) (x : Binary64) : String :=
  let sign := if x.isNegative then "-" else ""
  if x.isNaN then "nan"
  else if x.isInfinite then sign ++ "inf"
  else if x.isZero then sign ++ "0"
  else
    let (n, d) := x.toRatio
    let k := decimalExponent n.natAbs d
    let (p, r) := powerOfTen (k - count)
    let rounded := Binary64.roundQuotient (n.natAbs * r) (d * p)
    let ds := digits rounded
    let point : Int := k + ((ds.length : Int) - count)
    let d : Digits := ⟨trimZeros ds, point⟩
    let e := point - 1
    if -4 ≤ e && e < count then sign ++ positional d "" else sign ++ scientific d

end AppOperator.Decimal
