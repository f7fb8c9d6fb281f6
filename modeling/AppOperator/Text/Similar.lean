/-!
# Similar words

How alike two words are is measured by what they share: the longest stretch
that is in both, and what is shared in front of it and behind it.  A word counts
as close to another when the shared characters make up three tenths of the two
words together; of two equal words they make up one half.
-/

set_option autoImplicit false

namespace AppOperator.Text

/-- How far two lists agree from their starts. -/
def agreement : List Char → List Char → Nat
  | a :: as, b :: bs => if a == b then agreement as bs + 1 else 0
  | _, _ => 0

/-- A stretch that stands in two words: where, and how long it is. -/
structure Stretch where
  left : Nat
  right : Nat
  length : Nat

/-- The longest stretch of two words; of several the one that starts first. -/
def longestStretch (xs ys : List Char) : Stretch :=
  (List.range xs.length).foldl
    (fun best left =>
      (List.range ys.length).foldl
        (fun best right =>
          let length := agreement (xs.drop left) (ys.drop right)
          if length > best.length then ⟨left, right, length⟩ else best)
        best)
    ⟨0, 0, 0⟩

/-- The number of characters that two words share; `fuel` bounds the stretches. -/
def sharedWithin : (fuel : Nat) → List Char → List Char → Nat
  | 0, _, _ => 0
  | fuel + 1, xs, ys =>
      let best := longestStretch xs ys
      if best.length == 0 then 0
      else
        best.length + sharedWithin fuel (xs.take best.left) (ys.take best.right)
          + sharedWithin fuel (xs.drop (best.left + best.length))
              (ys.drop (best.right + best.length))

def shared (a b : String) : Nat :=
  sharedWithin (a.length + 1) a.toList b.toList

/-- A candidate with the share that it has in common with a word. -/
structure Likeness where
  candidate : String
  common : Nat
  total : Nat

/-- The first is at least as like as the second; equally like ones go by the alphabet, backwards. -/
def Likeness.notBehind (a b : Likeness) : Bool :=
  let left := a.common * b.total
  let right := b.common * a.total
  left > right || (left == right && !(a.candidate < b.candidate))

/-- At most three candidates that are close to a word, the closest first. -/
def closeTo (word : String) (candidates : List String) : List String :=
  let measured := candidates.map fun candidate =>
    (⟨candidate, shared candidate word, candidate.length + word.length⟩ : Likeness)
  let near := measured.filter fun likeness => 10 * likeness.common ≥ 3 * likeness.total
  ((near.mergeSort Likeness.notBehind).take 3).map Likeness.candidate

end AppOperator.Text
