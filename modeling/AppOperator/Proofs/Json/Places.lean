import AppOperator.Fault
import AppOperator.Proofs.Json.Editing

/-!
# Places in documents

Names of fields and positions in lists lead to a place in a document.  A document is edited within
some places (`Json.EditedWithin`) if all that is aside from them is as it was, and if what they
are inside of keeps its shape.
-/

set_option autoImplicit false

namespace AppOperator

namespace Json

inductive PlaceStep where
  | field (name : String)
  | item (index : Nat)
deriving DecidableEq

abbrev Place := List PlaceStep

/-- Neither inside of one of some places nor around one. -/
def Place.Aside (owned : List Place) (place : Place) : Prop :=
  ∀ own ∈ owned, ¬ own <+: place ∧ ¬ place <+: own

def Place.Outside (owned : List Place) (place : Place) : Prop :=
  ∀ own ∈ owned, ¬ own <+: place

instance (owned : List Place) (place : Place) : Decidable (place.Aside owned) :=
  inferInstanceAs (Decidable (∀ own ∈ owned, _))

def inside? (x : Json) : PlaceStep → Option Json
  | .field name => x.field? name
  | .item index =>
      match x with
      | .arr items => items[index]?
      | _ => none

def at? (x : Json) : Place → Option Json
  | [] => some x
  | step :: rest => (x.inside? step).bind fun inner => inner.at? rest

/-- The same but for some places; what they are inside of has the same shape. -/
structure EditedWithin (owned : List Place) (x y : Json) : Prop where
  aside : ∀ place, Place.Aside owned place → y.at? place = x.at? place
  around : ∀ place inner, Place.Outside owned place → x.at? place = some inner →
    ∃ inner', y.at? place = some inner' ∧ inner'.shape = inner.shape

variable {x y z old new value : Json} {name : String} {step : PlaceStep}
  {own : Place} {owned more : List Place}

theorem at?_cons_of_inside (isInside : x.inside? step = some old) (rest : Place) :
    x.at? (step :: rest) = old.at? rest := by
  simp only [at?, isInside, Option.bind_some]

theorem inside?_emptyRecord (step : PlaceStep) : (obj []).inside? step = none := by
  cases step <;> rfl

namespace EditedWithin

theorem trans (first : EditedWithin owned x y) (second : EditedWithin owned y z) :
    EditedWithin owned x z where
  aside place isAside := (second.aside place isAside).trans (first.aside place isAside)
  around place inner outside found := by
    obtain ⟨middle, found, shape⟩ := first.around place inner outside found
    obtain ⟨last, found, shape'⟩ := second.around place middle outside found
    exact ⟨last, found, shape'.trans shape⟩

theorem mono (edited : EditedWithin owned x y) (fewer : owned ⊆ more) : EditedWithin more x y where
  aside place isAside := edited.aside place fun own among => isAside own (fewer among)
  around place inner outside :=
    edited.around place inner fun own among => outside own (fewer among)

/-- Every place is inside of the whole document. -/
theorem whole (x y : Json) : EditedWithin [[]] x y where
  aside _ isAside := absurd List.nil_prefix (isAside [] (List.mem_singleton_self _)).1
  around _ _ outside := absurd List.nil_prefix (outside [] (List.mem_singleton_self _))

/-- An edit inside of one part, which counts as an empty record if it is not there. -/
theorem of_inside (shape : y.shape = x.shape) (isOld : (x.inside? step).getD (.obj []) = old)
    (isNew : y.inside? step = some new)
    (beside : ∀ other, other ≠ step → y.inside? other = x.inside? other)
    (edited : EditedWithin [own] old new) : EditedWithin [step :: own] x y where
  aside place isAside := by
    obtain ⟨notInside, notAround⟩ := isAside _ (List.mem_singleton_self _)
    cases place with
    | nil => exact absurd List.nil_prefix notAround
    | cons other rest =>
        by_cases same : other = step
        · subst same
          rw [List.prefix_cons_inj] at notInside notAround
          have restAside : Place.Aside [own] rest := by
            rintro _ ⟨⟩
            · exact ⟨notInside, notAround⟩
            · contradiction
          rw [at?_cons_of_inside isNew, edited.aside rest restAside]
          cases found : x.inside? other with
          | some inner =>
              rw [found, Option.getD_some] at isOld
              rw [← isOld, at?_cons_of_inside found]
          | none =>
              -- nothing is in the empty record that stands in for the part
              rw [found, Option.getD_none] at isOld
              subst isOld
              cases rest with
              | nil => exact absurd List.nil_prefix notAround
              | cons next rest => simp only [at?, found, inside?_emptyRecord, Option.bind_none]
        · simp only [at?, beside other same]
  around place inner outside found := by
    have notInside := outside _ (List.mem_singleton_self _)
    cases place with
    | nil =>
        cases found
        exact ⟨y, rfl, shape⟩
    | cons other rest =>
        by_cases same : other = step
        · subst same
          rw [List.prefix_cons_inj] at notInside
          have restOutside : Place.Outside [own] rest := by
            rintro _ ⟨⟩
            · exact notInside
            · contradiction
          obtain ⟨part, isPart, leads⟩ := Option.bind_eq_some_iff.mp found
          rw [isPart, Option.getD_some] at isOld
          subst isOld
          rw [at?_cons_of_inside isNew]
          exact edited.around rest inner restOutside leads
        · refine ⟨inner, ?_, rfl⟩
          rw [← found]
          simp only [at?, beside other same]

theorem of_set {fields : Fields} (isOld : (Fields.get? fields name).getD (.obj []) = old)
    (edited : EditedWithin [own] old new) :
    EditedWithin [.field name :: own] (.obj fields) (.obj (Fields.set fields name new)) := by
  refine of_inside rfl isOld (Fields.get?_set_self fields name new) ?_ edited
  intro other different
  cases other with
  | item index => rfl
  | field other =>
      refine Fields.get?_set_of_ne fields new ?_
      rintro rfl
      exact different rfl

theorem of_assign (assigned : x.assign name value = .ok y) :
    EditedWithin [[.field name]] x y := by
  obtain ⟨fields, rfl, rfl⟩ := assign_eq_ok_iff.mp assigned
  exact of_set rfl (whole _ _)

theorem of_changeEntry {change : Json → Except Fault Json}
    (changed : x.changeEntry name change = .ok y)
    (edits : ∀ old new, change old = .ok new → EditedWithin [own] old new) :
    EditedWithin [.field name :: own] x y := by
  obtain ⟨fields, old, new, rfl, found, changes, rfl⟩ := changeEntry_eq_ok_iff.mp changed
  exact of_set (by rw [found, Option.getD_some]) (edits old new changes)

theorem of_changeEntryOrNew {change : Json → Except Fault Json}
    (changed : x.changeEntryOrNew name change = .ok y)
    (edits : ∀ old new, change old = .ok new → EditedWithin [own] old new) :
    EditedWithin [.field name :: own] x y := by
  obtain ⟨fields, new, rfl, changes, rfl⟩ := changeEntryOrNew_eq_ok_iff.mp changed
  exact of_set rfl (edits _ new changes)

theorem of_changeFirst {change : Json → Except Fault Json} (changed : x.changeFirst change = .ok y)
    (edits : ∀ old new, change old = .ok new → EditedWithin [own] old new) :
    EditedWithin [.item 0 :: own] x y := by
  obtain ⟨item, rest, rfl⟩ := eq_arr_of_changeFirst changed
  obtain ⟨new, changes, rfl⟩ := changeFirst_eq_ok_iff.mp changed
  refine of_inside rfl rfl rfl ?_ (edits item new changes)
  intro other different
  cases other with
  | field name => rfl
  | item index =>
      cases index with
      | zero => exact absurd rfl different
      | succ index => rfl

end EditedWithin

end Json

end AppOperator
