import AppOperator.Proofs.Json.Names
import AppOperator.Proofs.Number.Characters
import AppOperator.Proofs.Yaml.Records
import AppOperator.Yaml.Plain

/-!
# Sending documents

What stands in a record of a document under a text that is no number and no word arrives under
that text (`Document.get?_of_plainIn`).  A value that was inserted into a document arrives as
what it was inserted for (`Document.plainIn_insert`).
-/

set_option autoImplicit false

namespace AppOperator

section Traversal

variable {ε α β : Type} {f : α → Except ε β} {x : α} {xs : List α} {y : β} {ys : List β}

theorem mapM_cons_eq_ok_iff : (x :: xs).mapM f = .ok ys ↔
    ∃ first rest, f x = .ok first ∧ xs.mapM f = .ok rest ∧ ys = first :: rest := by
  simp only [List.mapM_cons, bind_eq_ok_iff]
  constructor
  · rintro ⟨first, isFirst, rest, isRest, same⟩
    cases same
    exact ⟨first, rest, isFirst, isRest, rfl⟩
  · rintro ⟨first, rest, isFirst, isRest, rfl⟩
    exact ⟨first, isFirst, rest, isRest, rfl⟩

theorem exists_of_mem_mapM (all : xs.mapM f = .ok ys) (among : y ∈ ys) : ∃ x ∈ xs, f x = .ok y := by
  induction xs generalizing ys with
  | nil =>
      cases all
      cases among
  | cons x xs ih =>
      obtain ⟨first, rest, isFirst, isRest, rfl⟩ := mapM_cons_eq_ok_iff.mp all
      obtain rfl | among := List.mem_cons.mp among
      · exact ⟨x, List.mem_cons_self, isFirst⟩
      · obtain ⟨x', inside, same⟩ := ih isRest among
        exact ⟨x', List.mem_cons_of_mem _ inside, same⟩

theorem exists_mem_of_mapM (all : xs.mapM f = .ok ys) (among : x ∈ xs) : ∃ y ∈ ys, f x = .ok y := by
  induction xs generalizing ys with
  | nil => cases among
  | cons x' xs ih =>
      obtain ⟨first, rest, isFirst, isRest, rfl⟩ := mapM_cons_eq_ok_iff.mp all
      obtain rfl | among := List.mem_cons.mp among
      · exact ⟨first, List.mem_cons_self, isFirst⟩
      · obtain ⟨y, inside, same⟩ := ih isRest among
        exact ⟨y, List.mem_cons_of_mem _ inside, same⟩

theorem isEmpty_of_mapM (all : xs.mapM f = .ok ys) : ys.isEmpty = xs.isEmpty := by
  cases xs with
  | nil =>
      cases all
      rfl
  | cons x xs =>
      obtain ⟨first, rest, -, -, rfl⟩ := mapM_cons_eq_ok_iff.mp all
      rfl

end Traversal

namespace Yaml

variable {d : Document} {entries : Entries} {key value : Value} {name : String}

/-- A text that no other key is written as. -/
def OnlyText (name : String) : Prop :=
  ¬ InNumberChars name ∧ name ∉ ["null", "true", "false"]

instance (name : String) : Decidable (OnlyText name) :=
  inferInstanceAs (Decidable (_ ∧ _))

theorem eq_text_of_keyText (only : OnlyText name) (written : keyText d key = .ok name) :
    key = .text name := by
  obtain ⟨noNumber, noWord⟩ := only
  cases key with
  | text s =>
      cases written
      rfl
  | null =>
      cases written
      exact absurd (by simp) noWord
  | truth b =>
      cases written
      cases b <;> exact absurd (by simp) noWord
  | whole n =>
      rw [keyText] at written
      split at written
      · cases written
      · cases written
        exact absurd (Decimal.inNumberChars_intText n) noNumber
  | number x =>
      cases written
      exact absurd (Json.inNumberChars_numberText x) noNumber
  | octets _ | instant _ | part _ => cases written

namespace Document

variable {more last : Document} {part : Part} {number : Nat}

/-! ## What was inserted -/

/-- A document still has what another one has beyond a size. -/
def HasBeyond (size : Nat) (d more : Document) : Prop :=
  ∀ (number : Nat) (part : Part), size ≤ number →
    d.parts[number]? = some part → more.parts[number]? = some part

theorem HasBeyond.of_grows {size : Nat} (has : HasBeyond size last more) (grows : Grows d last) :
    HasBeyond size d more :=
  fun number part beyond found => has number part beyond (grows.parts number part found)

theorem HasBeyond.mono {size larger : Nat} (has : HasBeyond size d more) (le : size ≤ larger) :
    HasBeyond larger d more :=
  fun number part beyond => has number part (Nat.le_trans le beyond)

variable {fuel : Nat} {outer : List Nat} {y : Json}

theorem part_of_parts (has : d.parts[number]? = some part) : d.part number = part := by
  rw [Document.part, has, Option.getD_some]

/-- The part that was added last is there beyond all sizes up to its number. -/
theorem part_of_add {size : Nat} (has : HasBeyond size (d.add part).2 more)
    (le : size ≤ d.parts.size) : more.part d.parts.size = part :=
  part_of_parts (has _ _ le Array.getElem?_push_size)

def plainEntry (d : Document) (fuel : Nat) (outer : List Nat) (entry : Value × Value) :
    Except Fault (String × Json) := do
  return (← keyText d entry.1, ← d.plainIn fuel outer entry.2)

-- The generated equations of `plainIn` would compute the bound of long numbers.
theorem plainIn_whole_eq (d : Document) (fuel : Nat) (outer : List Nat) (n : Int) :
    d.plainIn fuel outer (.whole n) = if isLong n then .error longNumber else .ok (.int n) := by
  cases fuel <;> rfl

theorem plainIn_part_eq (d : Document) (fuel : Nat) (outer : List Nat) (number : Nat) :
    d.plainIn (fuel + 1) outer (.part number) =
      match d.part number with
      | .set _ => .error (.unsendable .set)
      | .list items => do
          if outer.contains number then throw .endless
          return .arr (← items.mapM (d.plainIn fuel (number :: outer)))
      | .pairs pairs => do
          if outer.contains number then throw .endless
          return .arr (← pairs.mapM fun (key, value) => do
            return .arr [← d.plainIn fuel (number :: outer) key,
              ← d.plainIn fuel (number :: outer) value])
      | .record entries => do
          if outer.contains number then throw .endless
          return .obj (Fields.ofPairs (← entries.mapM (d.plainEntry fuel (number :: outer)))) := rfl

theorem plainIn_whole {n : Int} (sent : d.plainIn fuel outer (.whole n) = .ok y) : y = .int n := by
  rw [plainIn_whole_eq] at sent
  split at sent
  · cases sent
  · exact (Except.ok.inj sent).symm

theorem plainIn_list {items : List Value} (isList : d.part number = .list items)
    (sent : d.plainIn fuel outer (.part number) = .ok y) :
    ∃ fuel' xs, items.mapM (d.plainIn fuel' (number :: outer)) = .ok xs ∧ y = .arr xs := by
  cases fuel with
  | zero => cases sent
  | succ fuel =>
      rw [plainIn_part_eq, isList] at sent
      dsimp only at sent
      split at sent
      · cases sent
      · obtain ⟨xs, all, same⟩ := bind_eq_ok_iff.mp sent
        cases same
        exact ⟨fuel, xs, all, rfl⟩

theorem plainEntry_eq_ok_iff {entry : Value × Value} {field : String × Json} :
    d.plainEntry fuel outer entry = .ok field ↔
      keyText d entry.1 = .ok field.1 ∧ d.plainIn fuel outer entry.2 = .ok field.2 := by
  obtain ⟨name, x⟩ := field
  simp only [plainEntry, bind_eq_ok_iff]
  constructor
  · rintro ⟨_, written, _, sent, same⟩
    cases same
    exact ⟨written, sent⟩
  · rintro ⟨written, sent⟩
    exact ⟨name, written, x, sent, rfl⟩

theorem plainIn_record (isRecord : d.part number = .record entries)
    (sent : d.plainIn fuel outer (.part number) = .ok y) : ∃ fuel' fields,
      entries.mapM (d.plainEntry fuel' (number :: outer)) = .ok fields ∧
        y = .obj (Fields.ofPairs fields) := by
  cases fuel with
  | zero => cases sent
  | succ fuel =>
      rw [plainIn_part_eq, isRecord] at sent
      dsimp only at sent
      split at sent
      · cases sent
      · obtain ⟨fields, all, same⟩ := bind_eq_ok_iff.mp sent
        cases same
        exact ⟨fuel, fields, all, rfl⟩

mutual

/-- A value that was inserted is sent as what it was inserted for. -/
theorem plainIn_insert : ∀ {x : Json} {d : Document} {fuel : Nat} {outer : List Nat} {y : Json},
    x.NamesDiffer → HasBeyond d.parts.size (d.insert x).2 more →
    more.plainIn fuel outer (d.insert x).1 = .ok y → y = x
  | .null, _, fuel, _, _, _, _, sent => by
      cases fuel <;> cases sent <;> rfl
  | .bool _, _, fuel, _, _, _, _, sent => by
      cases fuel <;> cases sent <;> rfl
  | .float _, _, fuel, _, _, _, _, sent => by
      cases fuel <;> cases sent <;> rfl
  | .str _, _, fuel, _, _, _, _, sent => by
      cases fuel <;> cases sent <;> rfl
  | .int n, _, _, _, _, _, _, sent => by
      rw [insert] at sent
      exact plainIn_whole sent
  | .arr items, d, fuel, outer, y, differ, has, sent => by
      cases differ with
      | arr inside =>
          simp only [insert] at has sent
          have grows := grows_insertItems items d
          have isPart := part_of_add has grows.size_le
          obtain ⟨fuel', xs, all, rfl⟩ := plainIn_list isPart sent
          rw [mapM_insertItems inside (has.of_grows (grows_add _ _)) all]
  | .obj fields, d, fuel, outer, y, differ, has, sent => by
      cases differ with
      | obj names inside =>
          simp only [insert] at has sent
          have grows := grows_insertFields fields d
          have isPart := part_of_add has grows.size_le
          obtain ⟨fuel', pairs, all, rfl⟩ := plainIn_record isPart sent
          rw [mapM_insertFields inside (has.of_grows (grows_add _ _)) all,
            Fields.ofPairs_of_nodup names]

theorem mapM_insertItems : ∀ {items : List Json} {d : Document} {fuel : Nat} {outer : List Nat}
    {xs : List Json}, (∀ x ∈ items, x.NamesDiffer) →
    HasBeyond d.parts.size (d.insertItems items).2 more →
    (d.insertItems items).1.mapM (more.plainIn fuel outer) = .ok xs → xs = items
  | [], _, _, _, _, _, _, all => by
      rw [insertItems] at all
      cases all
      rfl
  | x :: rest, d, fuel, outer, xs, differ, has, all => by
      simp only [insertItems] at has all
      obtain ⟨first, others, isFirst, areOthers, rfl⟩ := mapM_cons_eq_ok_iff.mp all
      have later := grows_insertItems rest (d.insert x).2
      rw [plainIn_insert (differ x List.mem_cons_self) (has.of_grows later) isFirst,
        mapM_insertItems (fun y among => differ y (List.mem_cons_of_mem _ among))
          (has.mono (grows_insert x d).size_le) areOthers]

theorem mapM_insertFields : ∀ {fields : List (String × Json)} {d : Document} {fuel : Nat}
    {outer : List Nat} {pairs : List (String × Json)}, (∀ field ∈ fields, field.2.NamesDiffer) →
    HasBeyond d.parts.size (d.insertFields fields).2 more →
    (d.insertFields fields).1.mapM (more.plainEntry fuel outer) = .ok pairs → pairs = fields
  | [], _, _, _, _, _, _, all => by
      rw [insertFields] at all
      cases all
      rfl
  | (name, x) :: rest, d, fuel, outer, pairs, differ, has, all => by
      simp only [insertFields] at has all
      obtain ⟨⟨key, first⟩, others, isFirst, areOthers, rfl⟩ := mapM_cons_eq_ok_iff.mp all
      obtain ⟨written, sent⟩ := plainEntry_eq_ok_iff.mp isFirst
      cases written
      dsimp only at sent
      have later := grows_insertFields rest (d.insert x).2
      rw [plainIn_insert (differ _ List.mem_cons_self) (has.of_grows later) sent,
        mapM_insertFields (fun y among => differ y (List.mem_cons_of_mem _ among))
          (has.mono (grows_insert x d).size_le) areOthers]

end

/-- What stands in a record under a text that is written like nothing else arrives there. -/
theorem get?_of_plainIn (only : OnlyText name) (isRecord : d.entries? value = some entries)
    (differ : entries.KeysDiffer) {inner : Value} (has : entries.get? (.text name) = some inner)
    (sent : d.plainIn fuel outer value = .ok y) : ∃ fields x fuel' outer', y = .obj fields ∧
      Fields.get? fields name = some x ∧ d.plainIn fuel' outer' inner = .ok x := by
  obtain ⟨number, rfl, isPart⟩ := entries?_eq_some_iff.mp isRecord
  obtain ⟨fuel', pairs, all, rfl⟩ := plainIn_record (part_of_parts isPart) sent
  obtain ⟨⟨key, x⟩, among, written⟩ :=
    exists_mem_of_mapM all ((Entries.mem_iff_get? differ).mpr has)
  obtain ⟨isKey, arrives⟩ := plainEntry_eq_ok_iff.mp written
  cases isKey
  -- no other key is written as this text, so what is sent under it comes from here
  refine ⟨_, x, fuel', _, rfl, Fields.get?_ofPairs among ?_, arrives⟩
  intro y other
  obtain ⟨⟨key, source⟩, inside, written⟩ := exists_of_mem_mapM all other
  obtain ⟨isKey, arrivesToo⟩ := plainEntry_eq_ok_iff.mp written
  have isText := eq_text_of_keyText only isKey
  dsimp only at isText
  subst isText
  have same := (Entries.mem_iff_get? differ).mp inside
  rw [has] at same
  cases same
  dsimp only at arrives arrivesToo
  rw [arrives] at arrivesToo
  exact (Except.ok.inj arrivesToo).symm

theorem plainIn_pairs {pairs : Entries} (isPairs : d.part number = .pairs pairs)
    (sent : d.plainIn fuel outer (.part number) = .ok y) :
    ∃ xs : List Json, y = .arr xs ∧ xs.isEmpty = pairs.isEmpty := by
  cases fuel with
  | zero => cases sent
  | succ fuel =>
      rw [plainIn_part_eq, isPairs] at sent
      dsimp only at sent
      split at sent
      · cases sent
      · obtain ⟨xs, all, same⟩ := bind_eq_ok_iff.mp sent
        cases same
        exact ⟨xs, rfl, isEmpty_of_mapM all⟩

/-- What arrives holds if its value does; texts arrive from texts, and a record from a record. -/
theorem agrees_of_plainIn (sent : d.plainIn fuel outer value = .ok y) : d.holds value = y.holds ∧
    (∀ s, y = .str s ↔ value = .text s) ∧
    (∀ fields, y = .obj fields → ∃ entries, d.entries? value = some entries) := by
  cases value with
  | null | truth _ | number _ => cases fuel <;> cases sent <;> exact ⟨rfl, by simp, by simp⟩
  | whole n =>
      rw [plainIn_whole sent]
      exact ⟨rfl, by simp, by simp⟩
  | text s =>
      have same : y = .str s := by cases fuel <;> cases sent <;> rfl
      subst same
      exact ⟨rfl, by simp, by simp⟩
  | octets _ | instant _ => cases fuel <;> cases sent
  | part number =>
      cases isPart : d.part number with
      | list items =>
          obtain ⟨fuel', xs, all, rfl⟩ := plainIn_list isPart sent
          refine ⟨?_, by simp, by simp⟩
          rw [holds, isPart, Json.holds, isEmpty_of_mapM all]
          rfl
      | record entries =>
          obtain ⟨fuel', pairs, all, rfl⟩ := plainIn_record isPart sent
          refine ⟨?_, by simp, fun _ _ => ⟨entries, by rw [entries?, isPart]⟩⟩
          rw [holds, isPart, Json.holds, Fields.isEmpty_ofPairs, isEmpty_of_mapM all]
          rfl
      | pairs pairs =>
          obtain ⟨xs, rfl, sameEmpty⟩ := plainIn_pairs isPart sent
          refine ⟨?_, by simp, by simp⟩
          rw [holds, isPart, Json.holds, sameEmpty]
          rfl
      | set items =>
          cases fuel with
          | zero => cases sent
          | succ fuel =>
              rw [plainIn_part_eq, isPart] at sent
              cases sent

/-- Under a text that is written like nothing else, nothing arrives that does not stand there. -/
theorem get?_of_plainIn_absent (only : OnlyText name) (isRecord : d.entries? value = some entries)
    (absent : entries.get? (.text name) = none) (differ : entries.KeysDiffer)
    (sent : d.plainIn fuel outer value = .ok y) : y.field? name = none := by
  obtain ⟨number, rfl, isPart⟩ := entries?_eq_some_iff.mp isRecord
  obtain ⟨fuel', pairs, all, rfl⟩ := plainIn_record (part_of_parts isPart) sent
  rw [Option.eq_none_iff_forall_ne_some]
  intro y found
  obtain ⟨field, isField, -⟩ := Option.map_eq_some_iff.mp found
  have isName : field.1 = name := by simpa using List.find?_some isField
  have among := Fields.mem_of_mem_ofPairs (List.mem_of_find?_eq_some isField)
  obtain ⟨⟨key, source⟩, inside, written⟩ := exists_of_mem_mapM all among
  obtain ⟨isKey, -⟩ := plainEntry_eq_ok_iff.mp written
  rw [isName] at isKey
  have isText := eq_text_of_keyText only isKey
  dsimp only at isText
  subst isText
  rw [(Entries.mem_iff_get? differ).mp inside] at absent
  cases absent

end Document

end Yaml

end AppOperator
