import Mathlib.Algebra.Order.Field.Basic
import Mathlib.Order.Interval.Set.UnorderedInterval
import Mathlib.Tactic.Linarith
import Mathlib.Tactic.Ring
import AppOperator.Proofs.Queue.Consistency

/-!
# Failures and delays

Only a success and a failure of a key change the failures that a queue counts, and
they change no others.  The delay after so many failures lies as far around its value
as the jitter says: the value doubles with every failure up to the longest delay, and
that the doubling stops at thirty makes no difference once the longest delay is
reached by then.
-/

set_option autoImplicit false

namespace AppOperator

namespace WorkQueue

variable {κ : Type}

/-! ## The failures that are counted -/

section Unchanged

variable (q : WorkQueue κ)

@[simp] theorem put_failures (entry : Entry κ) : (q.put entry).failures = q.failures := by
  unfold put
  split <;> rfl

@[simp] theorem shutdown_failures : q.shutdown.failures = q.failures := by
  unfold shutdown
  split <;> simp

variable [BEq κ]

@[simp] theorem add_failures (key : κ) : (q.add key).failures = q.failures := by
  obtain ⟨-, same⟩ | ⟨-, -, -, same⟩ | ⟨-, -, -, same⟩ := add_cases q key <;> simp [same]

@[simp] theorem take_failures (caller : Nat) : (q.take caller).2.failures = q.failures := by
  obtain ⟨-, same⟩ | ⟨key, rest, -, same⟩ | ⟨rest, -, same⟩ := take_cases q caller <;> simp [same]

@[simp] theorem finish_failures (key : κ) : (q.finish key).failures = q.failures := by
  simp only [finish]
  split <;> simp

@[simp] theorem addAfter_failures (key : κ) (delay now : Float) (serial : Nat) :
    (q.addAfter key delay now serial).failures = q.failures := by
  obtain ⟨-, same⟩ | ⟨-, same⟩ | ⟨-, same⟩ := addAfter_cases q key delay now serial <;> simp [same]

@[simp] theorem fire_failures (key : κ) : (q.fire key).failures = q.failures :=
  add_failures _ key

end Unchanged

variable [BEq κ]

theorem failureCount_congr {q r : WorkQueue κ} (failures : r.failures = q.failures) (key : κ) :
    r.failureCount key = q.failureCount key := by
  rw [failureCount, failures, failureCount]

variable [EquivBEq κ]

/-- Taking the entries of a key away leaves those of all others. -/
theorem find?_filter_ne (entries : List (κ × Nat)) (key other : κ) :
    (entries.filter fun entry => entry.1 != key).find? (fun entry => entry.1 == other) =
      if key == other then none else entries.find? fun entry => entry.1 == other := by
  induction entries with
  | nil => simp
  | cons entry rest ih =>
      cases here : entry.1 == key with
      | true =>
          rw [List.filter_cons_of_neg (by simp [bne, here]), ih, List.find?_cons,
            BEq.congr_left here]
          cases key == other <;> rfl
      | false =>
          rw [List.filter_cons_of_pos (by simp [bne, here]), List.find?_cons, ih, List.find?_cons]
          cases found : entry.1 == other with
          | false => rfl
          | true =>
              rw [BEq.congr_left found, BEq.comm] at here
              simp [here]

/-- A key that succeeds has no failures from then on; those of other keys stay. -/
theorem failureCount_forget (q : WorkQueue κ) (key other : κ) :
    (q.forget key).failureCount other =
      if key == other then 0 else q.failureCount other := by
  rw [failureCount, forget, find?_filter_ne]
  split <;> rfl

/-- A count that is set is the count of that key; those of other keys stay. -/
theorem failureCount_setFailures (q : WorkQueue κ) (key other : κ) (count : Nat) :
    (q.setFailures key count).failureCount other =
      if key == other then count else q.failureCount other := by
  rw [failureCount, setFailures, List.find?_append, find?_filter_ne, List.find?_singleton]
  split
  · rfl
  · rw [Option.or_none, failureCount]

theorem failureCount_addRateLimited (q : WorkQueue κ) (policy : Backoff Float) (random : Float)
    (key other : κ) (now : Float) (serial : Nat) :
    (q.addRateLimited policy random key now serial).2.failureCount other =
      if key == other then q.failureCount key + 1 else q.failureCount other := by
  have counted := failureCount_setFailures q key other (q.failureCount key + 1)
  exact (failureCount_congr (addAfter_failures _ key _ now serial) other).trans counted

end WorkQueue

/-! ## How long a failed key waits -/

namespace Backoff

section Doubling

variable {α : Type} [CommRing α]

theorem doubled_eq (x : α) (n : Nat) : doubled x n = x * 2 ^ n := by
  induction n generalizing x with
  | zero => simp [doubled]
  | succ n ih =>
      rw [doubled, ih, pow_succ]
      ring

end Doubling

variable {α : Type} [Field α] [LinearOrder α] [IsStrictOrderedRing α]

/-- What a delay lies around: the first delay doubled with every failure, and the longest
delay at most. -/
def value (b : Backoff α) (failures : Nat) : α :=
  min (b.baseDelay * 2 ^ failures) b.maxDelay

/-- That the doubling stops at thirty shows nowhere if the longest delay is reached by then. -/
theorem center_eq_value (b : Backoff α) (base : 0 < b.baseDelay)
    (reached : b.maxDelay ≤ b.baseDelay * 2 ^ 30) (failures : Nat) :
    b.center failures = b.value failures := by
  have smaller : b.center failures = min (b.baseDelay * 2 ^ doublings failures) b.maxDelay := by
    rw [center, doubled_eq, min_comm, min_def_lt]
  rw [smaller, value, doublings]
  rcases Nat.le_total failures 30 with few | many
  · rw [Nat.min_eq_left few]
  · have grown : b.baseDelay * 2 ^ 30 ≤ b.baseDelay * 2 ^ failures :=
      mul_le_mul_of_nonneg_left (pow_le_pow_right₀ one_le_two many) base.le
    rw [Nat.min_eq_right many, min_eq_right reached, min_eq_right (reached.trans grown)]

/-- The jitter is a factor between one less and one more than its part. -/
theorem jitter_bounds (b : Backoff α) (spread : 0 ≤ b.jitterFactor) {random : α}
    (low : 0 ≤ random) (high : random < 1) :
    1 - b.jitterFactor ≤ b.jitter random ∧ b.jitter random ≤ 1 + b.jitterFactor := by
  have above : -1 ≤ random * 2 - 1 := by linarith
  have below : random * 2 - 1 ≤ 1 := by linarith
  have least := mul_le_mul_of_nonneg_right above spread
  have most := mul_le_mul_of_nonneg_right below spread
  rw [jitter]
  constructor <;> linarith

/-- A delay lies around its value as far as the jitter allows. -/
theorem delay_mem_uIcc (b : Backoff α) (base : 0 < b.baseDelay)
    (reached : b.maxDelay ≤ b.baseDelay * 2 ^ 30) (spread : 0 ≤ b.jitterFactor) {random : α}
    (low : 0 ≤ random) (high : random < 1) (failures : Nat) :
    b.delay failures random ∈ Set.uIcc (b.value failures * (1 - b.jitterFactor))
      (b.value failures * (1 + b.jitterFactor)) := by
  obtain ⟨least, most⟩ := b.jitter_bounds spread low high
  rw [delay, b.center_eq_value base reached]
  rcases le_total 0 (b.value failures) with positive | negative
  · exact Set.mem_uIcc_of_le (mul_le_mul_of_nonneg_left least positive)
      (mul_le_mul_of_nonneg_left most positive)
  · exact Set.mem_uIcc_of_ge (mul_le_mul_of_nonpos_left most negative)
      (mul_le_mul_of_nonpos_left least negative)

end Backoff

end AppOperator
