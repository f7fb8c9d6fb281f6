import AppOperator.Proofs.Json.Editing

/-!
# Changes at paths

What an edit leaves alone is said by paths: two documents are the same but for some paths if
every path that is apart from all of these leads to the same in both (`Json.SameBut`).
-/

set_option autoImplicit false

namespace AppOperator

/-- Neither of two paths goes on from the other. -/
def Apart (first second : List String) : Prop :=
  ¬ first <+: second ∧ ¬ second <+: first

instance (first second : List String) : Decidable (Apart first second) :=
  inferInstanceAs (Decidable (_ ∧ _))

namespace Json

/-- The same but for what some paths lead to. -/
def SameBut (paths : List (List String)) (x y : Json) : Prop :=
  ∀ path, (∀ owned ∈ paths, Apart owned path) → y.dig? path = x.dig? path

variable {x y z value : Json} {name : String} {path : List String}
  {paths more : List (List String)} {fields fields' : Fields}

namespace SameBut

theorem refl (x : Json) : SameBut paths x x :=
  fun _ _ => rfl

theorem trans (first : SameBut paths x y) (second : SameBut paths y z) : SameBut paths x z :=
  fun path apart => (second path apart).trans (first path apart)

theorem mono (same : SameBut paths x y) (fewer : paths ⊆ more) : SameBut more x y :=
  fun path apart => same path fun owned among => apart owned (fewer among)

/-- No path is apart from the empty one. -/
theorem whole (x y : Json) : SameBut [[]] x y :=
  fun _ apart => absurd List.nil_prefix (apart [] (List.mem_singleton_self _)).1

/-- Records that agree but for some of their fields. -/
theorem records (names : List String) (nonempty : names ≠ [])
    (beside : ∀ other, other ∉ names → Fields.get? fields' other = Fields.get? fields other) :
    SameBut (names.map fun name => [name]) (.obj fields) (.obj fields') := by
  intro path apart
  cases path with
  | nil =>
      obtain ⟨name, among⟩ := List.exists_mem_of_ne_nil names nonempty
      exact absurd List.nil_prefix (apart [name] (List.mem_map_of_mem among)).2
  | cons other rest =>
      have notAmong : other ∉ names := fun among =>
        (apart [other] (List.mem_map_of_mem among)).1 (List.prefix_append [other] rest)
      simp only [dig?, field?, beside other notAmong]

/-- A change inside a field, which counts as an empty record if it is not there. -/
theorem field {old new : Json} (paths : List (List String)) (nonempty : paths ≠ [])
    (isOld : (Fields.get? fields name).getD (.obj []) = old) (inside : SameBut paths old new) :
    SameBut (paths.map (name :: ·)) (.obj fields) (.obj (Fields.set fields name new)) := by
  obtain ⟨first, isFirst⟩ := List.exists_mem_of_ne_nil paths nonempty
  intro path apart
  have notPrefix : ¬ path <+: name :: first := (apart _ (List.mem_map_of_mem isFirst)).2
  cases path with
  | nil => exact absurd List.nil_prefix notPrefix
  | cons other rest =>
      by_cases same : other = name
      · subst same
        have unchanged := inside rest fun owned among => by
          obtain ⟨notBefore, notBehind⟩ := apart _ (List.mem_map_of_mem among)
          rw [List.prefix_cons_inj] at notBefore notBehind
          exact ⟨notBefore, notBehind⟩
        simp only [dig?, field?, Fields.get?_set_self, Option.bind_some, unchanged]
        cases found : Fields.get? fields other with
        | some inner =>
            rw [found] at isOld
            rw [← isOld]
            rfl
        | none =>
            -- the empty record that stood in for the field leads nowhere either
            rw [found] at isOld
            subst isOld
            cases rest with
            | nil => exact absurd ((List.prefix_cons_inj other).2 List.nil_prefix) notPrefix
            | cons next rest => rfl
      · simp only [dig?, field?, Fields.get?_set_of_ne fields new same]

theorem of_assign (assigned : x.assign name value = .ok y) : SameBut [[name]] x y := by
  obtain ⟨fields, rfl, rfl⟩ := assign_eq_ok_iff.1 assigned
  exact .field [[]] (List.cons_ne_nil _ _) rfl (.whole _ _)

theorem of_changeEntry {change : Json → Except Fault Json}
    (changed : x.changeEntry name change = .ok y)
    (inside : ∀ old new, change old = .ok new → SameBut [path] old new) :
    SameBut [name :: path] x y := by
  obtain ⟨fields, old, new, rfl, found, changes, rfl⟩ := changeEntry_eq_ok_iff.1 changed
  have isOld : (Fields.get? fields name).getD (.obj []) = old := by rw [found, Option.getD_some]
  exact .field [path] (List.cons_ne_nil _ _) isOld (inside old new changes)

theorem of_changeEntryOrNew {change : Json → Except Fault Json}
    (changed : x.changeEntryOrNew name change = .ok y)
    (inside : ∀ old new, change old = .ok new → SameBut [path] old new) :
    SameBut [name :: path] x y := by
  obtain ⟨fields, new, rfl, changes, rfl⟩ := changeEntryOrNew_eq_ok_iff.1 changed
  exact .field [path] (List.cons_ne_nil _ _) rfl (inside _ new changes)

end SameBut

end Json

end AppOperator
