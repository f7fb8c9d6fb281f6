import AppOperator.Yaml.Document

/-!
# Records of documents

A record gives what was last written under a key, as long as no two of its keys are the same.
A document that is added to still has all that it had, and writing an entry changes one record,
wherever that stands.
-/

set_option autoImplicit false

namespace AppOperator.Yaml

variable {d : Document} {entries : Entries} {key value : Value} {name : String}

theorem sameKey_text_iff : key.sameKey (.text name) = true ↔ key = .text name := by
  cases key with
  | instant instant => cases instant <;> simp [Value.sameKey, Value.numeric?]
  | _ => simp [Value.sameKey, Value.numeric?]

namespace Entries

def KeysDiffer (entries : Entries) : Prop :=
  entries.Pairwise fun a b => a.1.sameKey b.1 = false

theorem get?_cons (old : Value) (rest : Entries) :
    get? ((old, value) :: rest) key = if old.sameKey key then some value else get? rest key := by
  simp only [get?, List.find?_cons]
  split <;> simp_all

/-- What stands under a text is all that stands under it. -/
theorem mem_iff_get? (differ : entries.KeysDiffer) :
    (.text name, value) ∈ entries ↔ entries.get? (.text name) = some value := by
  induction entries with
  | nil => simp [get?]
  | cons first rest ih =>
      obtain ⟨key, own⟩ := first
      obtain ⟨apart, restDiffer⟩ := List.pairwise_cons.mp differ
      rw [get?_cons, List.mem_cons]
      by_cases same : key = .text name
      · subst same
        rw [if_pos (sameKey_text_iff.mpr rfl), Option.some.injEq]
        constructor
        · rintro (isFirst | among)
          · cases isFirst
            rfl
          · have different := apart _ among
            rw [sameKey_text_iff.mpr rfl] at different
            cases different
        · rintro rfl
          exact .inl rfl
      · rw [if_neg (fun isSame => same (sameKey_text_iff.mp isSame)), ← ih restDiffer]
        constructor
        · rintro (isFirst | among)
          · cases isFirst
            exact absurd rfl same
          · exact among
        · exact .inr

theorem get?_set_self (entries : Entries) (name : String) (value : Value) :
    (entries.set (.text name) value).get? (.text name) = some value := by
  induction entries with
  | nil => simp [set, get?_cons, sameKey_text_iff]
  | cons first rest ih =>
      obtain ⟨key, old⟩ := first
      by_cases same : key.sameKey (.text name) = true <;> simp [set, get?_cons, same, ih]

theorem get?_set_of_ne (entries : Entries) {other : String} (value : Value)
    (different : other ≠ name) :
    (entries.set (.text name) value).get? (.text other) = entries.get? (.text other) := by
  have apart : Value.sameKey (.text name) (.text other) = false := by
    rw [← Bool.not_eq_true, sameKey_text_iff, Value.text.injEq]
    exact different.symm
  induction entries with
  | nil => simp [set, get?_cons, apart]
  | cons first rest ih =>
      obtain ⟨key, old⟩ := first
      by_cases same : key = .text name
      · subst same
        simp [set, get?_cons, sameKey_text_iff, apart]
      · simp [set, get?_cons, sameKey_text_iff, same, ih]

theorem mem_of_mem_set {entry : Value × Value} (among : entry ∈ entries.set key value) :
    (∃ old, (entry.1, old) ∈ entries) ∨ entry.1 = key := by
  induction entries with
  | nil =>
      rw [set, List.mem_singleton] at among
      exact .inr (congrArg Prod.fst among)
  | cons first rest ih =>
      obtain ⟨own, old⟩ := first
      by_cases same : own.sameKey key = true
      · rw [set, if_pos same] at among
        obtain rfl | among := List.mem_cons.mp among
        · exact .inl ⟨old, List.mem_cons_self⟩
        · exact .inl ⟨entry.2, List.mem_cons_of_mem _ among⟩
      · rw [set, if_neg same] at among
        obtain rfl | among := List.mem_cons.mp among
        · exact .inl ⟨old, List.mem_cons_self⟩
        · exact (ih among).imp (fun ⟨old, among⟩ => ⟨old, List.mem_cons_of_mem _ among⟩) id

theorem KeysDiffer.set (differ : entries.KeysDiffer) (key value : Value) :
    (entries.set key value).KeysDiffer := by
  induction entries with
  | nil => exact List.pairwise_singleton _ _
  | cons first rest ih =>
      obtain ⟨own, old⟩ := first
      obtain ⟨apart, restDiffer⟩ := List.pairwise_cons.mp differ
      by_cases same : own.sameKey key = true
      · rw [Entries.set, if_pos same]
        exact List.pairwise_cons.mpr ⟨apart, restDiffer⟩
      · rw [Entries.set, if_neg same]
        refine List.pairwise_cons.mpr ⟨?_, ih restDiffer⟩
        intro entry among
        obtain ⟨old, among⟩ | isKey := mem_of_mem_set among
        · exact apart (entry.1, old) among
        · rw [isKey]
          exact Bool.eq_false_iff.mpr same

end Entries

namespace Document

/-- In all the records of a document no two keys are the same key. -/
def KeysDiffer (d : Document) : Prop :=
  ∀ record entries, d.entries? record = some entries → entries.KeysDiffer

theorem entries?_eq_some_iff : d.entries? value = some entries ↔
    ∃ number, value = .part number ∧ d.parts[number]? = some (.record entries) := by
  cases value with
  | part number =>
      simp only [entries?, part, Value.part.injEq, exists_eq_left']
      cases d.parts[number]? with
      | none => simp
      | some own => cases own <;> simp
  | _ => simp [entries?]

/-- A document that has all that another has. -/
structure Grows (d more : Document) : Prop where
  root : more.root = d.root
  parts : ∀ (number : Nat) (part : Part),
    d.parts[number]? = some part → more.parts[number]? = some part

variable {more last : Document} {part : Part} {number : Nat} {x : Json}

namespace Grows

theorem refl (d : Document) : Grows d d :=
  ⟨rfl, fun _ _ has => has⟩

theorem trans (first : Grows d more) (second : Grows more last) : Grows d last where
  root := second.root.trans first.root
  parts number part has := second.parts number part (first.parts number part has)

theorem size_le (grows : Grows d more) : d.parts.size ≤ more.parts.size := by
  refine Nat.le_of_not_lt fun inside => ?_
  have kept := grows.parts _ _ (Array.getElem?_eq_getElem inside)
  rw [Array.getElem?_eq_none (Nat.le_refl _)] at kept
  cases kept

theorem entries? (grows : Grows d more) (isRecord : d.entries? value = some entries) :
    more.entries? value = some entries := by
  obtain ⟨number, rfl, has⟩ := entries?_eq_some_iff.mp isRecord
  exact entries?_eq_some_iff.mpr ⟨number, rfl, grows.parts _ _ has⟩

end Grows

theorem grows_add (d : Document) (part : Part) : Grows d (d.add part).2 where
  root := rfl
  parts number own has := by
    have inside : number < d.parts.size := (Array.getElem?_eq_some_iff.mp has).1
    rw [add, Array.getElem?_push_lt inside, ← Array.getElem?_eq_getElem inside, has]

mutual

theorem grows_insert : ∀ (x : Json) (d : Document), Grows d (d.insert x).2
  | .null, d | .bool _, d | .int _, d | .float _, d | .str _, d => by
      simp only [insert]
      exact .refl d
  | .arr items, d => by
      simp only [insert]
      exact (grows_insertItems items d).trans (grows_add _ _)
  | .obj fields, d => by
      simp only [insert]
      exact (grows_insertFields fields d).trans (grows_add _ _)

theorem grows_insertItems : ∀ (items : List Json) (d : Document), Grows d (d.insertItems items).2
  | [], d => by
      simp only [insertItems]
      exact .refl d
  | x :: rest, d => by
      simp only [insertItems]
      exact (grows_insert x d).trans (grows_insertItems rest _)

theorem grows_insertFields : ∀ (fields : List (String × Json)) (d : Document),
    Grows d (d.insertFields fields).2
  | [], d => by
      simp only [insertFields]
      exact .refl d
  | (_, x) :: rest, d => by
      simp only [insertFields]
      exact (grows_insert x d).trans (grows_insertFields rest _)

end

/-! ## Writing an entry -/

variable {own : Entries} {record other : Value}

theorem getElem?_setEntry (isRecord : d.parts[number]? = some (.record entries)) (at_ : Nat) :
    (d.setEntry (.part number) name value).parts[at_]? =
      if at_ = number then some (.record (entries.set (.text name) value)) else d.parts[at_]? := by
  have found : d.entries? (.part number) = some entries :=
    entries?_eq_some_iff.mpr ⟨number, rfl, isRecord⟩
  have inside : number < d.parts.size := (Array.getElem?_eq_some_iff.mp isRecord).1
  simp only [setEntry, found, Array.set!_eq_setIfInBounds, Array.getElem?_setIfInBounds]
  by_cases same : at_ = number
  · subst same
    simp [inside]
  · simp [same, Ne.symm same]

theorem entries?_setEntry (isRecord : d.entries? record = some entries) :
    (d.setEntry record name value).entries? record = some (entries.set (.text name) value) := by
  obtain ⟨number, rfl, has⟩ := entries?_eq_some_iff.mp isRecord
  refine entries?_eq_some_iff.mpr ⟨number, rfl, ?_⟩
  rw [getElem?_setEntry has, if_pos rfl]

theorem root_setEntry : (d.setEntry record name value).root = d.root := by
  unfold setEntry
  split <;> rfl

/-- Any record when an entry is written: it is as it was but for that entry, if it is not the
one that is written to. -/
theorem exists_entries?_setEntry (isRecord : d.entries? record = some entries)
    (isOther : d.entries? other = some own) : ∃ now,
    (d.setEntry record name value).entries? other = some now ∧ (own.KeysDiffer → now.KeysDiffer) ∧
      ∀ key, key ≠ name → now.get? (.text key) = own.get? (.text key) := by
  obtain ⟨number, rfl, has⟩ := entries?_eq_some_iff.mp isRecord
  obtain ⟨at_, rfl, hasOther⟩ := entries?_eq_some_iff.mp isOther
  by_cases same : at_ = number
  · subst same
    rw [has] at hasOther
    cases hasOther
    exact ⟨_, entries?_setEntry isRecord, fun differ => differ.set _ _,
      fun key different => Entries.get?_set_of_ne entries value different⟩
  · refine ⟨own, entries?_eq_some_iff.mpr ⟨at_, rfl, ?_⟩, id, fun _ _ => rfl⟩
    rw [getElem?_setEntry has, if_neg same, hasOther]

end Document

end AppOperator.Yaml
