/-!
# Backoff

The delay before a failed key is tried again doubles with every failure up to a
limit, and it is spread around that value by a random amount.  The rule is
stated over any arithmetic: the operator uses it with binary numbers.
-/

set_option autoImplicit false

namespace AppOperator

/-- How long failed keys wait: the first delay, the longest one, and how far a
delay may lie from its value, as a part of it. -/
structure Backoff (α : Type) where
  baseDelay : α
  maxDelay : α
  jitterFactor : α

namespace Backoff

variable {α : Type}

/-- The number of doublings after so many failures; it stops growing at thirty. -/
def doublings (failures : Nat) : Nat :=
  min failures 30

def doubled [Mul α] [OfNat α 2] (x : α) : Nat → α
  | 0 => x
  | n + 1 => doubled (x * 2) n

/-- The delay before the jitter. -/
def center [Mul α] [OfNat α 2] [LT α] [DecidableLT α] (b : Backoff α) (failures : Nat) : α :=
  let grown := doubled b.baseDelay (doublings failures)
  if b.maxDelay < grown then b.maxDelay else grown

/-- The factor of a random number between zero and one. -/
def jitter [Add α] [Sub α] [Mul α] [OfNat α 1] [OfNat α 2] (b : Backoff α) (random : α) : α :=
  1 + (random * 2 - 1) * b.jitterFactor

def delay [Add α] [Sub α] [Mul α] [OfNat α 1] [OfNat α 2] [LT α] [DecidableLT α]
    (b : Backoff α) (failures : Nat) (random : α) : α :=
  b.center failures * b.jitter random

end Backoff

end AppOperator
