import AppOperator.Json.Basic

/-!
# Documents in memory

In a memory a record has its parts by their addresses, and records that share a part have it at
one address.  What a memory shows does not change as long as nothing is written to the addresses
it had, and a record that is copied shares its parts with the one it was copied from.
-/

set_option autoImplicit false

namespace AppOperator

/-- What stands in a field or in a list: a value without parts, or the address of its parts. -/
inductive Slot where
  | plain (x : Json)
  | at (address : Nat)

abbrev Slots := List (String × Slot)

inductive Cell where
  | record (slots : Slots)
  | list (slots : List Slot)

/-- Records and lists by their addresses. -/
abbrev Memory := List Cell

namespace Slots

def get? (slots : Slots) (name : String) : Option Slot :=
  (slots.find? fun entry => entry.1 == name).map (·.2)

/-- Replaces what stands in a field; a new field goes to the end. -/
def set : Slots → String → Slot → Slots
  | [], name, slot => [(name, slot)]
  | (key, old) :: rest, name, slot =>
      if key == name then (key, slot) :: rest else (key, old) :: set rest name slot

theorem get?_cons (key name : String) (slot : Slot) (rest : Slots) :
    get? ((key, slot) :: rest) name = if key == name then some slot else get? rest name := by
  simp only [get?, List.find?_cons]
  split <;> simp_all

end Slots

namespace Memory

variable {m more : Memory} {address : Nat} {cell : Cell} {name : String} {x : Json} {slot : Slot}
  {fields : Fields} {slots : Slots}

mutual

/-- A slot stands for a document in a memory. -/
def Shows (m : Memory) : Json → Slot → Prop
  | .null, slot => slot = .plain .null
  | .bool b, slot => slot = .plain (.bool b)
  | .int n, slot => slot = .plain (.int n)
  | .float number, slot => slot = .plain (.float number)
  | .str s, slot => slot = .plain (.str s)
  | .arr items, slot => ∃ address slots, slot = .at address ∧
      m[address]? = some (.list slots) ∧ m.ShowsItems items slots
  | .obj fields, slot => ∃ address slots, slot = .at address ∧
      m[address]? = some (.record slots) ∧ m.ShowsFields fields slots

def ShowsItems (m : Memory) : List Json → List Slot → Prop
  | [], slots => slots = []
  | x :: rest, slots => ∃ slot others, slots = slot :: others ∧ m.Shows x slot ∧
      m.ShowsItems rest others

def ShowsFields (m : Memory) : List (String × Json) → Slots → Prop
  | [], slots => slots = []
  | (name, x) :: rest, slots => ∃ slot others, slots = (name, slot) :: others ∧ m.Shows x slot ∧
      m.ShowsFields rest others

end

theorem stored_of_prefix (grown : m <+: more) (stored : m[address]? = some cell) :
    more[address]? = some cell := by
  obtain ⟨fresh, rfl⟩ := grown
  have inside : address < m.length := (List.getElem?_eq_some_iff.mp stored).1
  rw [List.getElem?_append_left inside, stored]

mutual

/-- What a memory shows, it shows when there is more of it. -/
theorem Shows.mono (grown : m <+: more) : ∀ {x : Json} {slot : Slot},
    m.Shows x slot → more.Shows x slot
  | .null, _, shows | .bool _, _, shows | .int _, _, shows | .float _, _, shows
  | .str _, _, shows => by
      simpa only [Shows] using shows
  | .arr items, _, shows => by
      simp only [Shows] at shows ⊢
      obtain ⟨address, slots, same, stored, inside⟩ := shows
      exact ⟨address, slots, same, stored_of_prefix grown stored, inside.mono grown⟩
  | .obj fields, _, shows => by
      simp only [Shows] at shows ⊢
      obtain ⟨address, slots, same, stored, inside⟩ := shows
      exact ⟨address, slots, same, stored_of_prefix grown stored, inside.mono grown⟩

theorem ShowsItems.mono (grown : m <+: more) : ∀ {items : List Json} {slots : List Slot},
    m.ShowsItems items slots → more.ShowsItems items slots
  | [], _, shows => by
      simpa only [ShowsItems] using shows
  | _ :: _, _, shows => by
      simp only [ShowsItems] at shows ⊢
      obtain ⟨slot, others, same, first, rest⟩ := shows
      exact ⟨slot, others, same, first.mono grown, rest.mono grown⟩

theorem ShowsFields.mono (grown : m <+: more) : ∀ {fields : Fields} {slots : Slots},
    m.ShowsFields fields slots → more.ShowsFields fields slots
  | [], _, shows => by
      simpa only [ShowsFields] using shows
  | _ :: _, _, shows => by
      simp only [ShowsFields] at shows ⊢
      obtain ⟨slot, others, same, first, rest⟩ := shows
      exact ⟨slot, others, same, first.mono grown, rest.mono grown⟩

end

/-- What stands in a field shows the value of the field. -/
theorem ShowsFields.get? (shows : m.ShowsFields fields slots) (name : String) :
    (Fields.get? fields name = none ∧ Slots.get? slots name = none) ∨
      ∃ x slot, Fields.get? fields name = some x ∧ Slots.get? slots name = some slot ∧
        m.Shows x slot := by
  induction fields generalizing slots with
  | nil =>
      cases (show slots = [] by simpa only [ShowsFields] using shows)
      exact .inl ⟨rfl, rfl⟩
  | cons field rest ih =>
      obtain ⟨key, x⟩ := field
      simp only [ShowsFields] at shows
      obtain ⟨slot, others, rfl, first, more⟩ := shows
      rw [Fields.get?_cons, Slots.get?_cons]
      by_cases same : (key == name) = true
      · rw [if_pos same, if_pos same]
        exact .inr ⟨x, slot, rfl, rfl, first⟩
      · rw [if_neg same, if_neg same]
        exact ih more

theorem ShowsFields.set (shows : m.ShowsFields fields slots) (name : String)
    (written : m.Shows x slot) :
    m.ShowsFields (Fields.set fields name x) (Slots.set slots name slot) := by
  induction fields generalizing slots with
  | nil =>
      cases (show slots = [] by simpa only [ShowsFields] using shows)
      simp only [Fields.set, Slots.set, ShowsFields]
      exact ⟨slot, [], rfl, written, rfl⟩
  | cons field rest ih =>
      obtain ⟨key, old⟩ := field
      simp only [ShowsFields] at shows
      obtain ⟨slot', others, rfl, first, more⟩ := shows
      rw [Fields.set, Slots.set]
      by_cases same : (key == name) = true
      · rw [if_pos same, if_pos same]
        simp only [ShowsFields]
        exact ⟨slot, others, rfl, written, more⟩
      · rw [if_neg same, if_neg same]
        simp only [ShowsFields]
        exact ⟨slot', _, rfl, first, ih more⟩

/-- A new record with the same slots, and its address. -/
def copy (m : Memory) (address : Nat) : Option (Nat × Memory) :=
  match m[address]? with
  | some (.record slots) => some (m.length, m ++ [.record slots])
  | _ => none

def slot? (m : Memory) (address : Nat) (name : String) : Option Slot :=
  match m[address]? with
  | some (.record slots) => Slots.get? slots name
  | _ => none

/-- Writes to a field of the record at an address. -/
def write (m : Memory) (address : Nat) (name : String) (slot : Slot) : Memory :=
  match m[address]? with
  | some (.record slots) => m.set address (.record (Slots.set slots name slot))
  | _ => m

end Memory

end AppOperator
