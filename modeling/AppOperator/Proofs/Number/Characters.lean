import AppOperator.Json.Writer

/-!
# The characters of numbers

A number is written with digits, signs, a point and an `e`, and one that is not finite as a
word.  So a text with any other character is not how a number is written.
-/

set_option autoImplicit false

namespace AppOperator

/-- A character that numbers are written with. -/
def isNumberChar (c : Char) : Bool :=
  c.isDigit || "+-.eNaInfity".toList.contains c

def InNumberChars (s : String) : Prop :=
  ∀ c ∈ s.toList, isNumberChar c = true

instance (s : String) : Decidable (InNumberChars s) :=
  decidable_of_iff (s.toList.all isNumberChar = true) List.all_eq_true

theorem InNumberChars.append {s t : String} (first : InNumberChars s) (second : InNumberChars t) :
    InNumberChars (s ++ t) := by
  intro c among
  rw [String.toList_append, List.mem_append] at among
  exact among.elim (first c) (second c)

theorem inNumberChars_ofList {cs : List Char} (digits : ∀ c ∈ cs, c.isDigit = true) :
    InNumberChars (String.ofList cs) := by
  intro c among
  rw [String.toList_ofList] at among
  rw [isNumberChar, digits c among, Bool.true_or]

namespace Decimal

theorem isDigit_of_mem_digits {n : Nat} {c : Char} (among : c ∈ digits n) : c.isDigit = true :=
  Nat.isDigit_of_mem_toDigits (by decide) (by decide) among

theorem inNumberChars_intText (n : Int) : InNumberChars (intText n) := by
  have whole : InNumberChars (natText n.natAbs) :=
    inNumberChars_ofList fun c => isDigit_of_mem_digits
  unfold intText
  split
  · exact .append (by decide) whole
  · exact whole

theorem isDigit_of_mem_trimZeros {ds : List Char} (digits : ∀ c ∈ ds, c.isDigit = true) {c : Char}
    (among : c ∈ trimZeros ds) : c.isDigit = true := by
  rw [trimZeros, List.mem_reverse] at among
  exact digits c (List.mem_reverse.mp ((List.dropWhile_sublist _).subset among))

theorem isDigit_of_mem_replicate {count : Nat} {c : Char} (among : c ∈ List.replicate count '0') :
    c.isDigit = true := by
  rw [(List.mem_replicate.mp among).2]
  rfl

theorem inNumberChars_exponentText (e : Int) : InNumberChars (exponentText e) := by
  have padded : InNumberChars (String.ofList (padLeft 2 (digits e.natAbs))) := by
    refine inNumberChars_ofList fun c among => ?_
    obtain among | among := List.mem_append.mp among
    · exact isDigit_of_mem_replicate among
    · exact isDigit_of_mem_digits among
  refine .append ?_ padded
  split <;> decide

section Digits

variable {d : Digits} (digits : ∀ c ∈ d.digits, c.isDigit = true)

include digits

theorem inNumberChars_scientific : InNumberChars (scientific d) := by
  have first : InNumberChars (String.ofList (d.digits.take 1)) :=
    inNumberChars_ofList fun c among => digits c (List.mem_of_mem_take among)
  have others : InNumberChars (String.ofList (d.digits.drop 1)) :=
    inNumberChars_ofList fun c among => digits c (List.mem_of_mem_drop among)
  refine .append (.append (.append first ?_) (by decide)) (inNumberChars_exponentText _)
  split
  · decide
  · exact .append (by decide) others

theorem inNumberChars_positional : InNumberChars (positional d ".0") := by
  unfold positional
  split
  · refine .append (by decide) (inNumberChars_ofList fun c among => ?_)
    obtain among | among := List.mem_append.mp among
    · exact isDigit_of_mem_replicate among
    · exact digits c among
  · dsimp only
    split
    · refine .append (inNumberChars_ofList fun c among => ?_) (by decide)
      obtain among | among := List.mem_append.mp among
      · exact digits c among
      · exact isDigit_of_mem_replicate among
    · refine .append (.append (inNumberChars_ofList fun c among => ?_) (by decide))
        (inNumberChars_ofList fun c among => ?_)
      · exact digits c (List.mem_of_mem_take among)
      · exact digits c (List.mem_of_mem_drop among)

end Digits

theorem isDigit_of_mem_shortest {x : Binary64} {c : Char} (among : c ∈ (shortest x).digits) :
    c.isDigit = true := by
  unfold shortest at among
  extract_lets i k at among
  generalize i.search k 1 20 = found at among
  exact isDigit_of_mem_trimZeros (fun c => isDigit_of_mem_digits) among

theorem inNumberChars_documentText (x : Binary64) : InNumberChars (documentText x) := by
  have sign : InNumberChars (if x.isNegative then "-" else "") := by
    split <;> decide
  have digits : ∀ c ∈ (shortest x).digits, c.isDigit = true :=
    fun c => isDigit_of_mem_shortest
  unfold documentText
  dsimp only
  split
  · decide
  · split
    · exact sign.append (by decide)
    · split
      · exact sign.append (by decide)
      · split
        · exact sign.append (inNumberChars_positional digits)
        · exact sign.append (inNumberChars_scientific digits)

end Decimal

theorem Json.inNumberChars_numberText (x : Binary64) : InNumberChars (numberText x) := by
  unfold numberText
  split
  · decide
  · split
    · split <;> decide
    · exact Decimal.inNumberChars_documentText x

end AppOperator
