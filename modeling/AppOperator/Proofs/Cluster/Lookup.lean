import AppOperator.Proofs.Json.Editing
import AppOperator.Cluster.Store

/-!
# Looking up stored objects

Places that agree hold the same object, and what a write does to the object at
every place.  A place that an object is kept at can be looked up, and so can all
places that agree with it.
-/

set_option autoImplicit false

namespace AppOperator

namespace Binary64

theorem twoTo_pos (exponent : Nat) : 0 < twoTo exponent :=
  Nat.pow_pos (by decide)

/-- The magnitude of a whole number vanishes with its significand. -/
theorem isZero_eq_of_toInt? {x : Binary64} {n : Int} (whole : x.toInt? = some n) :
    x.isZero = (n == 0) := by
  unfold toInt? at whole
  split at whole
  · cases whole
  · next finite =>
      have isFinite : x.isFinite = true := by simpa using finite
      obtain ⟨number, counted, signed⟩ := Option.map_eq_some_iff.1 whole
      obtain ⟨magnitude, found, same⟩ := Option.bind_eq_some_iff.1 counted
      cases same
      have vanishes : magnitude = 0 ↔ x.significand = 0 := by
        split at found
        · cases found
          have positive := twoTo_pos x.scale.toNat
          rw [Nat.mul_eq_zero]
          omega
        · split at found
          · next divides =>
              cases found
              have positive := twoTo_pos (-x.scale).toNat
              have exact_ : x.significand % twoTo (-x.scale).toNat = 0 := by simpa using divides
              constructor
              · intro none
                have parts := Nat.div_add_mod x.significand (twoTo (-x.scale).toNat)
                rw [none, exact_] at parts
                simpa using parts.symm
              · intro none
                rw [none, Nat.zero_div]
          · cases found
      have zero : n = 0 ↔ magnitude = 0 := by
        rw [← signed]
        split <;> omega
      simp only [isZero, isFinite, Bool.true_and]
      rw [Bool.eq_iff_iff, beq_iff_eq, beq_iff_eq, zero, vanishes]

end Binary64

namespace Json

variable {x y : Json}

/-- A text agrees with nothing but itself. -/
theorem keyForm_eq_str_iff (s : String) : x.keyForm = .str s ↔ x = .str s := by
  cases x with
  | float number => cases whole : number.toInt? <;> simp [keyForm, wholeNumber?, whole]
  | _ => simp [keyForm, wholeNumber?]

/-- Documents that agree as keys hold alike. -/
theorem holds_keyForm (x : Json) : x.keyForm.holds = x.holds := by
  cases x with
  | bool b => cases b <;> rfl
  | float number =>
      cases whole : number.toInt? with
      | none => simp [keyForm, wholeNumber?, whole]
      | some n =>
          have zero := Binary64.isZero_eq_of_toInt? whole
          simp only [keyForm, wholeNumber?, whole, holds, zero]
          rfl
  | _ => rfl

theorem eq_of_asKey (key : x.asKey = .ok y) : y = x := by
  cases x <;> simp_all [asKey]

theorem asKey_congr (agree : x.keyForm = y.keyForm) (key : x.asKey = .ok x) :
    y.asKey = .ok y := by
  cases y with
  | arr items =>
      cases x with
      | float number => cases whole : number.toInt? <;> simp [keyForm, wholeNumber?, whole] at agree
      | _ => simp_all [keyForm, wholeNumber?, asKey]
  | obj fields =>
      cases x with
      | float number => cases whole : number.toInt? <;> simp [keyForm, wholeNumber?, whole] at agree
      | _ => simp_all [keyForm, wholeNumber?, asKey]
  | _ => rfl

end Json

namespace ObjectPlace

theorem beq_iff (a b : ObjectPlace) : (a == b) = true ↔ a.kind = b.kind ∧
    a.namespaceName.keyForm = b.namespaceName.keyForm ∧ a.name.keyForm = b.name.keyForm := by
  change (_ && _ && _) = true ↔ _
  simp [and_assoc]

instance : EquivBEq ObjectPlace where
  rfl := (beq_iff _ _).2 ⟨rfl, rfl, rfl⟩
  symm agree := by
    obtain ⟨kind, namespaceName, name⟩ := (beq_iff _ _).1 agree
    exact (beq_iff _ _).2 ⟨kind.symm, namespaceName.symm, name.symm⟩
  trans first second := by
    obtain ⟨kind, namespaceName, name⟩ := (beq_iff _ _).1 first
    obtain ⟨kind', namespaceName', name'⟩ := (beq_iff _ _).1 second
    exact (beq_iff _ _).2
      ⟨kind.trans kind', namespaceName.trans namespaceName', name.trans name'⟩

/-- The place that texts give. -/
def ofTexts (kind : ResourceKind) (namespaceName name : String) : ObjectPlace :=
  ⟨kind.name, .str namespaceName, .str name⟩

theorem beq_false_of_kind {a b : ObjectPlace} (different : a.kind ≠ b.kind) :
    (a == b) = false := by
  rw [Bool.eq_false_iff]
  intro agree
  exact different ((beq_iff a b).1 agree).1

end ObjectPlace

namespace Store

variable {s : Store} {at_ other : ObjectPlace}

theorem get?_congr (agree : (at_ == other) = true) : s.get? at_ = s.get? other := by
  have alike : ∀ entry : ObjectPlace × Json, (entry.1 == at_) = (entry.1 == other) := by
    intro entry
    exact BEq.congr_right agree
  simp only [get?, alike]

theorem find?_place (objects : List (ObjectPlace × Json)) (at_ other : ObjectPlace)
    (object : Json) :
    ((place objects at_ object).find? fun entry => entry.1 == other).map (·.2) =
      if at_ == other then some object
      else (objects.find? fun entry => entry.1 == other).map (·.2) := by
  induction objects with
  | nil => cases agree : at_ == other <;> simp [place, agree]
  | cons entry rest tail =>
      obtain ⟨held, old⟩ := entry
      by_cases here : held == at_
      · have alike : (held == other) = (at_ == other) := BEq.congr_left here
        cases agree : at_ == other <;> simp [place, here, alike, agree]
      · simp only [place, here, Bool.false_eq_true, if_false]
        by_cases found : held == other
        · have different : (at_ == other) = false := by
            rw [Bool.eq_false_iff]
            intro agree
            exact here (PartialEquivBEq.trans found (PartialEquivBEq.symm agree))
          simp [found, different]
        · simpa [found] using tail

theorem get?_put (s : Store) (at_ other : ObjectPlace) (object : Json) :
    (s.put at_ object).get? other = if at_ == other then some object else s.get? other :=
  find?_place s.objects at_ other object

@[simp] theorem get?_put_self (s : Store) (at_ : ObjectPlace) (object : Json) :
    (s.put at_ object).get? at_ = some object := by
  rw [get?_put, if_pos BEq.rfl]

theorem get?_put_of_ne (object : Json) (different : (at_ == other) = false) :
    (s.put at_ object).get? other = s.get? other := by
  rw [get?_put, different]
  rfl

theorem get?_edit_of_kind {path : List Json} {value : Option Json} (different : other.kind ≠ at_.kind) :
    (s.edit at_ path value).2.get? other = s.get? other := by
  have elsewhere : (at_ == other) = false := ObjectPlace.beq_false_of_kind (Ne.symm different)
  unfold edit
  split
  · rfl
  · split
    · rfl
    · exact get?_put_of_ne _ elsewhere

theorem get?_remove (s : Store) (at_ other : ObjectPlace) :
    (s.remove at_).get? other = if at_ == other then none else s.get? other := by
  simp only [get?, remove, List.find?_filter]
  by_cases agree : at_ == other
  · have outside : ∀ entry : ObjectPlace × Json,
        decide ((entry.1 != at_) = true ∧ (entry.1 == other) = true) = false := by
      intro entry
      have alike : (entry.1 == at_) = (entry.1 == other) := BEq.congr_right agree
      cases found : entry.1 == other <;> simp [bne, alike, found]
    simp [outside, agree]
  · have inside : ∀ entry : ObjectPlace × Json,
        decide ((entry.1 != at_) = true ∧ (entry.1 == other) = true) = (entry.1 == other) := by
      intro entry
      cases found : entry.1 == other with
      | false => simp
      | true =>
          have elsewhere : (entry.1 == at_) = false := by
            rw [Bool.eq_false_iff]
            intro here
            exact agree (PartialEquivBEq.trans (PartialEquivBEq.symm here) found)
          simp [bne, elsewhere]
    simp [inside, agree]

theorem usable_eq_ok_iff {found : ObjectPlace} : usable at_ = .ok found ↔
    found = at_ ∧ at_.namespaceName.asKey = .ok at_.namespaceName ∧
      at_.name.asKey = .ok at_.name := by
  simp only [usable, bind_eq_ok_iff, pure, Except.pure, Except.ok.injEq]
  constructor
  · rintro ⟨namespaceName, first, name, second, rfl⟩
    obtain rfl := Json.eq_of_asKey first
    obtain rfl := Json.eq_of_asKey second
    exact ⟨rfl, first, second⟩
  · rintro ⟨rfl, first, second⟩
    exact ⟨_, first, _, second, rfl⟩

theorem usable_congr (agree : (at_ == other) = true) (first : usable at_ = .ok at_) :
    usable other = .ok other := by
  obtain ⟨-, namespaceName, name⟩ := (ObjectPlace.beq_iff at_ other).1 agree
  obtain ⟨-, forNamespace, forName⟩ := usable_eq_ok_iff.1 first
  exact usable_eq_ok_iff.2
    ⟨rfl, Json.asKey_congr namespaceName forNamespace, Json.asKey_congr name forName⟩

@[simp] theorem usable_ofTexts (kind : ResourceKind) (namespaceName name : String) :
    usable (.ofTexts kind namespaceName name) = .ok (.ofTexts kind namespaceName name) := rfl

theorem statedPlace_eq_ok_iff {kind : ResourceKind} {object : Json} :
    statedPlace kind object = .ok at_ ↔ ∃ fields metadata name, object = .obj fields ∧
      Fields.get? fields "metadata" = some (.obj metadata) ∧
      Fields.get? metadata "name" = some name ∧
      at_ = ⟨kind.name, (Fields.get? metadata "namespace").getD (.str "default"), name⟩ := by
  simp only [statedPlace, bind_eq_ok_iff, Json.entry_eq_ok_iff, Json.fieldOr_eq_ok_iff, pure,
    Except.pure, Except.ok.injEq]
  constructor
  · rintro ⟨part, ⟨fields, rfl, has⟩, namespaceName, ⟨metadata, rfl, rfl⟩, name,
      ⟨same, record, named⟩, rfl⟩
    cases record
    exact ⟨fields, metadata, name, rfl, has, named, rfl⟩
  · rintro ⟨fields, metadata, name, rfl, has, named, rfl⟩
    exact ⟨_, ⟨fields, rfl, has⟩, _, ⟨metadata, rfl, rfl⟩, name, ⟨metadata, rfl, named⟩, rfl⟩

end Store

end AppOperator
