/-!
# Patterns

A pattern goes through a text from one place to others further on.  It is found in a
text if it goes anywhere from one of the places of the text.  A place before one last
line break counts as an end of the text.
-/

set_option autoImplicit false

namespace AppOperator.Text

/-- A place in a text: how many characters come before it, and those that follow. -/
structure Spot where
  position : Nat
  rest : List Char
deriving DecidableEq, Repr

def Spot.isEnd (s : Spot) : Bool :=
  s.rest == [] || s.rest == ['\n']

/-- What a pattern consists of; ranges of characters are given by their first and last. -/
inductive Pattern where
  | start
  | finish
  | oneOf (ranges : List (Char × Char))
  | optional (inner : Pattern)
  | many (inner : Pattern)
  | seq (first second : Pattern)
deriving Repr

def isAmong (ranges : List (Char × Char)) (c : Char) : Bool :=
  ranges.any fun range => range.1 ≤ c && c ≤ range.2

/-- Where steps lead, any number of them.  Every step but the last has to get on, so as
many steps are enough as there are characters. -/
def repeated (step : Spot → List Spot) : (fuel : Nat) → Spot → List Spot
  | 0, s => [s]
  | fuel + 1, s =>
      s :: ((step s).filter fun next => s.position < next.position).flatMap (repeated step fuel)

namespace Pattern

/-- Where a pattern goes from a place. -/
def spots : Pattern → Spot → List Spot
  | .start, s => if s.position = 0 then [s] else []
  | .finish, s => if s.isEnd then [s] else []
  | .oneOf ranges, s =>
      match s.rest with
      | [] => []
      | c :: rest => if isAmong ranges c then [⟨s.position + 1, rest⟩] else []
  | .optional inner, s => s :: inner.spots s
  | .many inner, s => repeated inner.spots s.rest.length s
  | .seq first second, s => (first.spots s).flatMap second.spots

def isFoundFrom (p : Pattern) (position : Nat) : List Char → Bool
  | [] => !(p.spots ⟨position, []⟩).isEmpty
  | c :: rest => !(p.spots ⟨position, c :: rest⟩).isEmpty || p.isFoundFrom (position + 1) rest

/-- The pattern goes somewhere from some place of a text. -/
def isFoundIn (p : Pattern) (cs : List Char) : Bool :=
  p.isFoundFrom 0 cs

def rangeText (range : Char × Char) : String :=
  if range.1 = range.2 then String.singleton range.1
  else String.ofList [range.1, '-', range.2]

/-- What is optional or repeated stands in parentheses, unless it is a single character. -/
def grouped (p : Pattern) (text : String) : String :=
  match p with
  | .oneOf _ => text
  | _ => "(" ++ text ++ ")"

/-- A pattern as it is written. -/
def text : Pattern → String
  | .start => "^"
  | .finish => "$"
  | .oneOf ranges => "[" ++ String.join (ranges.map rangeText) ++ "]"
  | .optional inner => grouped inner inner.text ++ "?"
  | .many inner => grouped inner inner.text ++ "*"
  | .seq first second => first.text ++ second.text

end Pattern

end AppOperator.Text
