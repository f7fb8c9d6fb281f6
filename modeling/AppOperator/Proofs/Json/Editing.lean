import AppOperator.Reconcile.Step

/-!
# Reading and editing documents

When a document can be read or edited at a field, and what comes of it.  Each
lemma says exactly when an operation goes through; the paths of names that
statements about documents are made with are at the end.
-/

set_option autoImplicit false

namespace AppOperator

theorem bind_eq_ok_iff {ε α β : Type} {x : Except ε α} {f : α → Except ε β} {b : β} :
    (x >>= f) = .ok b ↔ ∃ a, x = .ok a ∧ f a = .ok b := by
  cases x with
  | error fault =>
      constructor
      · intro impossible
        cases impossible
      · rintro ⟨a, impossible, -⟩
        cases impossible
  | ok a =>
      constructor
      · intro goesOn
        exact ⟨a, rfl, goesOn⟩
      · rintro ⟨b, same, goesOn⟩
        cases same
        exact goesOn

theorem eq_ok_of_toOption {ε α : Type} {x : Except ε α} {a : α} (holds : x.toOption = some a) :
    x = .ok a := by
  cases x with
  | error fault => simp [Except.toOption] at holds
  | ok b => simpa [Except.toOption] using holds

namespace Json

variable {x y value : Json} {name : String}

theorem fieldOr_eq_ok_iff {default : Json} :
    x.fieldOr name default = .ok value ↔
      ∃ fields, x = .obj fields ∧ value = (Fields.get? fields name).getD default := by
  cases x <;> simp [fieldOr, eq_comm]

theorem fieldOr_obj (fields : Fields) (name : String) (default : Json) :
    (obj fields).fieldOr name default = .ok ((Fields.get? fields name).getD default) := rfl

theorem entry_eq_ok_iff :
    x.entry name = .ok value ↔ ∃ fields, x = .obj fields ∧ Fields.get? fields name = some value := by
  cases x with
  | obj fields => cases found : Fields.get? fields name <;> simp [entry, found]
  | _ => simp [entry]

theorem entry_obj_eq_ok_iff {fields : Fields} :
    (obj fields).entry name = .ok value ↔ Fields.get? fields name = some value := by
  cases found : Fields.get? fields name <;> simp [entry, found]

theorem assign_eq_ok_iff :
    x.assign name value = .ok y ↔
      ∃ fields, x = .obj fields ∧ y = .obj (Fields.set fields name value) := by
  cases x <;> simp [assign, eq_comm]

theorem changeEntry_eq_ok_iff {change : Json → Except Fault Json} :
    x.changeEntry name change = .ok y ↔ ∃ fields old new, x = .obj fields ∧
      Fields.get? fields name = some old ∧ change old = .ok new ∧
      y = .obj (Fields.set fields name new) := by
  simp only [changeEntry, bind_eq_ok_iff, entry_eq_ok_iff, assign_eq_ok_iff]
  constructor
  · rintro ⟨old, ⟨fields, rfl, found⟩, new, changed, same, record, rfl⟩
    cases record
    exact ⟨_, old, new, rfl, found, changed, rfl⟩
  · rintro ⟨fields, old, new, rfl, found, changed, rfl⟩
    exact ⟨old, ⟨fields, rfl, found⟩, new, changed, fields, rfl, rfl⟩

theorem changeEntry_obj_eq_ok_iff {fields : Fields} {change : Json → Except Fault Json} :
    (obj fields).changeEntry name change = .ok y ↔ ∃ old new,
      Fields.get? fields name = some old ∧ change old = .ok new ∧
      y = .obj (Fields.set fields name new) := by
  rw [changeEntry_eq_ok_iff]
  constructor
  · rintro ⟨own, old, new, same, found, changed, rfl⟩
    cases same
    exact ⟨old, new, found, changed, rfl⟩
  · rintro ⟨old, new, found, changed, rfl⟩
    exact ⟨fields, old, new, rfl, found, changed, rfl⟩

theorem exists_changeEntry {fields : Fields} {old : Json} {change : Json → Except Fault Json}
    (found : Fields.get? fields name = some old) (changes : ∃ new, change old = .ok new) :
    ∃ y, (obj fields).changeEntry name change = .ok y := by
  obtain ⟨new, changed⟩ := changes
  exact ⟨_, changeEntry_obj_eq_ok_iff.2 ⟨old, new, found, changed, rfl⟩⟩

theorem changeEntryOrNew_eq_ok_iff {change : Json → Except Fault Json} :
    x.changeEntryOrNew name change = .ok y ↔ ∃ fields new, x = .obj fields ∧
      change ((Fields.get? fields name).getD (.obj [])) = .ok new ∧
      y = .obj (Fields.set fields name new) := by
  cases x with
  | obj fields =>
      simp only [changeEntryOrNew, bind_eq_ok_iff, pure, Except.pure, Except.ok.injEq, obj.injEq]
      constructor
      · rintro ⟨new, changed, rfl⟩
        exact ⟨fields, new, rfl, changed, rfl⟩
      · rintro ⟨_, new, rfl, changed, rfl⟩
        exact ⟨new, changed, rfl⟩
  | _ => simp [changeEntryOrNew]

theorem first_arr (item : Json) (rest : List Json) : (arr (item :: rest)).first = .ok item := rfl

theorem changeFirst_eq_ok_iff {item : Json} {rest : List Json}
    {change : Json → Except Fault Json} :
    (arr (item :: rest)).changeFirst change = .ok y ↔
      ∃ new, change item = .ok new ∧ y = .arr (new :: rest) := by
  simp only [changeFirst, bind_eq_ok_iff, first_arr, pure, Except.pure, Except.ok.injEq]
  constructor
  · rintro ⟨_, rfl, new, changed, rfl⟩
    exact ⟨new, changed, rfl⟩
  · rintro ⟨new, changed, rfl⟩
    exact ⟨item, rfl, new, changed, rfl⟩

/-- Only in a list can the first item be changed. -/
theorem eq_arr_of_changeFirst {change : Json → Except Fault Json}
    (changed : x.changeFirst change = .ok y) : ∃ item rest, x = .arr (item :: rest) := by
  simp only [changeFirst, bind_eq_ok_iff] at changed
  obtain ⟨item, isFirst, new, -, written⟩ := changed
  split at written
  · next head rest => exact ⟨head, rest, rfl⟩
  · cases written

/-- A document that agrees with a text is that text. -/
theorem isText_iff (s : String) : x.isText s = true ↔ x = .str s := by
  cases x with
  | str other => simp [isText, alike]
  | float number =>
      simp only [isText, alike, wholeNumber?, Bool.and_eq_true, beq_iff_eq, reduceCtorEq, iff_false]
      rintro ⟨whole, none⟩
      rw [none] at whole
      cases whole
  | _ => simp [isText, alike, wholeNumber?]

/-- The document is a record. -/
def IsRecord (x : Json) : Prop :=
  ∃ fields, x = .obj fields

/-- What a path of names leads to. -/
def dig? (x : Json) : List String → Option Json
  | [] => some x
  | name :: rest => (x.field? name).bind fun inner => inner.dig? rest

/-- The first item of a list. -/
def firstItem? : Json → Option Json
  | .arr (item :: _) => some item
  | _ => none

theorem field?_eq_some_iff : x.field? name = some value ↔
    ∃ fields, x = .obj fields ∧ Fields.get? fields name = some value := by
  cases x <;> simp [field?]

/-- A record with a field holds. -/
theorem orElse_of_field? (has : x.field? name = some value) (default : Json) :
    x.orElse default = x := by
  obtain ⟨fields, rfl, found⟩ := field?_eq_some_iff.1 has
  cases fields with
  | nil => cases found
  | cons field rest => rfl

theorem orElse_set (fields : Fields) (name : String) (value default : Json) :
    (obj (Fields.set fields name value)).orElse default = obj (Fields.set fields name value) :=
  orElse_of_field? (field?_eq_some_iff.2 ⟨_, rfl, Fields.get?_set_self fields name value⟩) default

theorem dig?_singleton (x : Json) (name : String) : x.dig? [name] = x.field? name := by
  simp [dig?]

theorem dig?_of_field {fields : Fields} (has : Fields.get? fields name = some value)
    {rest : List String} : (obj fields).dig? (name :: rest) = value.dig? rest := by
  simp only [dig?, field?, has, Option.bind_some]

theorem dig?_cons_eq_some_iff {rest : List String} : x.dig? (name :: rest) = some value ↔
    ∃ fields inner, x = .obj fields ∧ Fields.get? fields name = some inner ∧
      inner.dig? rest = some value := by
  simp only [dig?, Option.bind_eq_some_iff, field?_eq_some_iff]
  constructor
  · rintro ⟨inner, ⟨fields, rfl, has⟩, leads⟩
    exact ⟨fields, inner, rfl, has, leads⟩
  · rintro ⟨fields, inner, rfl, has, leads⟩
    exact ⟨inner, ⟨fields, rfl, has⟩, leads⟩

end Json

end AppOperator
