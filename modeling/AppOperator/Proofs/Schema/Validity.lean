import Mathlib.Algebra.Order.Ring.Int
import AppOperator.Schema

/-!
# What schemas accept

A document has nothing to report exactly when it breaks no rule.  A rule about whole
numbers accepts a number without a fraction for the whole number that it is, so bounds
on it are bounds on that whole number.
-/

set_option autoImplicit false

namespace AppOperator

/-! ## Numbers without a fraction -/

namespace Binary64

variable {x : Binary64} {n : Int}

theorem isFinite_of_toInt? (whole : x.toInt? = some n) : x.isFinite = true := by
  unfold toInt? at whole
  split at whole
  · cases whole
  · next finite => simpa using finite

theorem ordinary_of_isFinite (finite : x.isFinite = true) :
    x.isNaN = false ∧ x.isInfinite = false := by
  simp_all [isNaN, isInfinite, isFinite]

/-- The fraction of a whole number comes to that number. -/
theorem toRatio_of_toInt? (whole : x.toInt? = some n) :
    x.toRatio.1 = n * x.toRatio.2 ∧ 0 < x.toRatio.2 := by
  have finite := isFinite_of_toInt? whole
  simp only [toInt?, finite, Bool.not_true, Bool.false_eq_true, if_false,
    Option.map_eq_some_iff] at whole
  obtain ⟨k, magnitude, rfl⟩ := whole
  by_cases natural : x.scale ≥ 0
  · rw [if_pos natural] at magnitude
    cases magnitude
    simp [toRatio, natural]
  · rw [if_neg natural] at magnitude
    split at magnitude
    · next exact_ =>
        cases magnitude
        have positive : 0 < twoTo (-x.scale).toNat := Nat.two_pow_pos _
        have whole : x.significand =
            x.significand / twoTo (-x.scale).toNat * twoTo (-x.scale).toNat :=
          (Nat.div_mul_cancel (Nat.dvd_of_mod_eq_zero (by simpa using exact_))).symm
        simp only [toRatio, natural, if_false]
        refine ⟨?_, positive⟩
        split
        · rw [Int.neg_mul, ← Int.natCast_mul, ← whole]
        · rw [← Int.natCast_mul, ← whole]
    · cases magnitude

theorem ltInt_of_toInt? (whole : x.toInt? = some n) (bound : Int) :
    x.ltInt bound = decide (n < bound) := by
  obtain ⟨notNaN, notInfinite⟩ := ordinary_of_isFinite (isFinite_of_toInt? whole)
  obtain ⟨ratio, positive⟩ := toRatio_of_toInt? whole
  simp only [ltInt, notNaN, notInfinite, Bool.false_eq_true, if_false, ratio]
  congr 1
  exact propext (mul_lt_mul_iff_left₀ (Int.natCast_pos.mpr positive))

theorem gtInt_of_toInt? (whole : x.toInt? = some n) (bound : Int) :
    x.gtInt bound = decide (n > bound) := by
  obtain ⟨notNaN, notInfinite⟩ := ordinary_of_isFinite (isFinite_of_toInt? whole)
  obtain ⟨ratio, positive⟩ := toRatio_of_toInt? whole
  simp only [gtInt, notNaN, notInfinite, Bool.false_eq_true, if_false, ratio]
  congr 1
  exact propext (mul_lt_mul_iff_left₀ (Int.natCast_pos.mpr positive))

end Binary64

/-! ## Rules that are not broken -/

section Rules

variable {δ : Type} {path : List String} {x : δ}

theorem violatedIf_eq_nil_iff {broken : Bool} {subject : Option δ} {message : String} :
    violatedIf broken path subject message = [] ↔ broken = false := by
  cases broken <;> simp [violatedIf]

variable [Checkable δ]

open Checkable

theorem schemaViolations_nil : schemaViolations path x [] = [] := rfl

theorem propertyViolations_nil : propertyViolations path x [] = [] := rfl

theorem schemaViolations_cons_eq_nil_iff {rule : Rule} {rest : Schema} :
    schemaViolations path x (rule :: rest) = [] ↔
      rule.violations path x = [] ∧ schemaViolations path x rest = [] := by
  rw [schemaViolations, List.append_eq_nil_iff]

theorem required_eq_nil_iff {names : List String} :
    (Rule.required names).violations path x = [] ↔
      ∀ name ∈ names, (aspect x).lacks name = false := by
  simp only [Rule.violations, List.flatMap_eq_nil_iff, violatedIf_eq_nil_iff]

theorem propertyViolations_cons_eq_nil_iff {name : String} {schema : Schema}
    {rest : List (String × Schema)} :
    propertyViolations path x ((name, schema) :: rest) = [] ↔
      (∀ value, (aspect x).field? name = some value →
        schemaViolations (path ++ [name]) value schema = []) ∧
      propertyViolations path x rest = [] := by
  rw [propertyViolations, List.append_eq_nil_iff]
  cases (aspect x).field? name <;> simp

/-- What is wrong with the fields of a record, one field after the other. -/
theorem properties_cons_eq_nil_iff {name : String} {schema : Schema}
    {rest : List (String × Schema)} :
    (Rule.properties ((name, schema) :: rest)).violations path x = [] ↔
      (∀ value, (aspect x).field? name = some value →
        schemaViolations (path ++ [name]) value schema = []) ∧
      (Rule.properties rest).violations path x = [] := by
  simp only [Rule.violations, propertyViolations_cons_eq_nil_iff]

theorem type_eq_nil_iff {expected : SchemaType} :
    (Rule.type expected).violations path x = [] ↔ expected.admits (aspect x) = true := by
  simp [Rule.violations, violatedIf_eq_nil_iff]

mutual

/-- Whether a rule is broken does not depend on the path. -/
theorem Rule.violations_path (x : δ) : ∀ (rule : Rule) (path other : List String),
    rule.violations path x = [] → rule.violations other x = []
  | .type _, _, _, kept | .const _, _, _, kept | .minLength _, _, _, kept
  | .maxLength _, _, _, kept | .pattern _, _, _, kept | .minimum _, _, _, kept
  | .maximum _, _, _, kept => by
      simp only [Rule.violations, violatedIf_eq_nil_iff] at kept ⊢
      exact kept
  | .required _, _, _, kept => required_eq_nil_iff.mpr (required_eq_nil_iff.mp kept)
  | .properties schemas, path, other, kept => propertyViolations_path x schemas path other kept

theorem propertyViolations_path (x : δ) : ∀ (schemas : List (String × List Rule))
    (path other : List String),
    propertyViolations path x schemas = [] → propertyViolations other x schemas = []
  | [], _, _, _ => rfl
  | (name, schema) :: rest, path, other, kept => by
      rw [propertyViolations_cons_eq_nil_iff] at kept ⊢
      exact ⟨fun value has => schemaViolations_path value schema _ _ (kept.1 value has),
        propertyViolations_path x rest path other kept.2⟩

theorem schemaViolations_path (x : δ) : ∀ (schema : List Rule) (path other : List String),
    schemaViolations path x schema = [] → schemaViolations other x schema = []
  | [], _, _, _ => rfl
  | rule :: rest, path, other, kept => by
      rw [schemaViolations_cons_eq_nil_iff] at kept ⊢
      exact ⟨Rule.violations_path x rule path other kept.1,
        schemaViolations_path x rest path other kept.2⟩

end

/-- Nothing is reported of a document exactly when it breaks no rule. -/
theorem Schema.message?_eq_none_iff {schema : Schema} :
    schema.message? x = none ↔ schemaViolations [] x schema = [] := by
  have lines : schema.report x = [] ↔ schemaViolations [] x schema = [] := by
    rw [← List.length_eq_zero_iff, Schema.report, List.length_map, Schema.violations,
      List.length_mergeSort, List.length_eq_zero_iff]
  rw [← lines, Schema.message?]
  cases schema.report x <;> simp

end Rules

end AppOperator
