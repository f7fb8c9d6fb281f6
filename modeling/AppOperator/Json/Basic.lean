import AppOperator.Number.Binary64

/-!
# Documents

The objects of a cluster are documents: nulls, truth values, numbers, texts,
lists, and records whose fields keep the order in which they were written.
Whole numbers have no bound and are kept apart from numbers with a fraction.

Two equalities are in use.  Two documents are *the same* when they are equal as
values of this type, and this is decidable.  They are *alike* when they agree as
values: `1`, `1.0` and `true` are alike, and the order of fields does not count.
-/

set_option autoImplicit false

namespace AppOperator

inductive Json where
  | null
  | bool (value : Bool)
  | int (value : Int)
  | float (value : Binary64)
  | str (value : String)
  | arr (items : List Json)
  | obj (fields : List (String × Json))
deriving Inhabited

/-- Fields of a record in the order in which they were written. -/
abbrev Fields := List (String × Json)

namespace Fields

/-- The value of the first field with a name. -/
def get? (fields : Fields) (name : String) : Option Json :=
  (fields.find? fun field => field.1 == name).map (·.2)

/-- Replaces the value where the field stands; a new field goes to the end. -/
def set : Fields → String → Json → Fields
  | [], name, value => [(name, value)]
  | (key, old) :: rest, name, value =>
      if key == name then (key, value) :: rest else (key, old) :: set rest name value

def erase (fields : Fields) (name : String) : Fields :=
  fields.filter fun field => field.1 != name

/-- Of several fields with one name the last value stays, at the place of the first. -/
def ofPairs (pairs : List (String × Json)) : Fields :=
  pairs.foldl (fun fields pair => set fields pair.1 pair.2) []

@[simp] theorem get?_nil (name : String) : get? [] name = none := rfl

theorem get?_cons (key name : String) (value : Json) (rest : Fields) :
    get? ((key, value) :: rest) name = if key == name then some value else get? rest name := by
  simp only [get?, List.find?_cons]
  split <;> simp_all

/-- A field reads back as what was written to it. -/
theorem get?_set_self (fields : Fields) (name : String) (value : Json) :
    get? (set fields name value) name = some value := by
  induction fields with
  | nil => simp [set, get?_cons]
  | cons field rest tail =>
      obtain ⟨key, old⟩ := field
      by_cases same : key == name
      · simp [set, same, get?_cons]
      · simp [set, same, get?_cons, tail]

/-- Writing a field leaves the others alone. -/
theorem get?_set_of_ne (fields : Fields) {name other : String} (value : Json)
    (different : other ≠ name) :
    get? (set fields name value) other = get? fields other := by
  induction fields with
  | nil => simp [set, get?_cons, Ne.symm different]
  | cons field rest tail =>
      obtain ⟨key, old⟩ := field
      by_cases same : key = name
      · subst same
        simp [set, get?_cons, Ne.symm different]
      · simp [set, same, get?_cons, tail]

end Fields

namespace Json

mutual

def same : Json → Json → Bool
  | .null, .null => true
  | .bool a, .bool b => a == b
  | .int a, .int b => a == b
  | .float a, .float b => a == b
  | .str a, .str b => a == b
  | .arr xs, .arr ys => sameItems xs ys
  | .obj xs, .obj ys => sameFields xs ys
  | _, _ => false

def sameItems : List Json → List Json → Bool
  | [], [] => true
  | x :: xs, y :: ys => same x y && sameItems xs ys
  | _, _ => false

def sameFields : List (String × Json) → List (String × Json) → Bool
  | [], [] => true
  | (k, x) :: xs, (l, y) :: ys => k == l && same x y && sameFields xs ys
  | _, _ => false

end

mutual

theorem same_iff : ∀ x y : Json, same x y = true ↔ x = y
  | .null, y => by cases y <;> simp [same]
  | .bool a, y => by cases y <;> simp [same]
  | .int a, y => by cases y <;> simp [same]
  | .float a, y => by cases y <;> simp [same]
  | .str a, y => by cases y <;> simp [same]
  | .arr xs, y => by cases y <;> simp [same, sameItems_iff xs]
  | .obj xs, y => by cases y <;> simp [same, sameFields_iff xs]

theorem sameItems_iff : ∀ xs ys : List Json, sameItems xs ys = true ↔ xs = ys
  | [], ys => by cases ys <;> simp [sameItems]
  | x :: xs, ys => by
      cases ys with
      | nil => simp [sameItems]
      | cons y ys => simp [sameItems, same_iff x y, sameItems_iff xs ys]

theorem sameFields_iff : ∀ xs ys : List (String × Json), sameFields xs ys = true ↔ xs = ys
  | [], ys => by cases ys <;> simp [sameFields]
  | (k, x) :: xs, ys => by
      cases ys with
      | nil => simp [sameFields]
      | cons y ys =>
          obtain ⟨l, y⟩ := y
          simp [sameFields, same_iff x y, sameFields_iff xs ys]

end

instance : DecidableEq Json := fun x y =>
  decidable_of_iff (same x y = true) (same_iff x y)

/-- Nothing, false, zero, and what is empty do not hold. -/
def holds : Json → Bool
  | .null => false
  | .bool b => b
  | .int n => n != 0
  | .float x => !x.isZero
  | .str s => s != ""
  | .arr xs => !xs.isEmpty
  | .obj fs => !fs.isEmpty

def wholeNumber? : Json → Option Int
  | .bool b => some (if b then 1 else 0)
  | .int n => some n
  | .float x => x.toInt?
  | _ => none

mutual

/-- Two documents agree as values. -/
def alike : Json → Json → Bool
  | .null, y => match y with | .null => true | _ => false
  | .bool a, y => y.wholeNumber? == some (if a then 1 else 0)
  | .int a, y => y.wholeNumber? == some a
  | .float a, y =>
      match y with
      | .float b => a.alike b
      | _ => a.toInt?.isSome && a.toInt? == y.wholeNumber?
  | .str a, y => match y with | .str b => a == b | _ => false
  | .arr xs, y => match y with | .arr ys => alikeItems xs ys | _ => false
  | .obj xs, y =>
      match y with
      | .obj ys => xs.length == ys.length && alikeFields xs ys
      | _ => false

def alikeItems : List Json → List Json → Bool
  | [], ys => ys.isEmpty
  | x :: xs, ys =>
      match ys with
      | [] => false
      | y :: ys => alike x y && alikeItems xs ys

def alikeFields : List (String × Json) → Fields → Bool
  | [], _ => true
  | (k, x) :: xs, ys =>
      match Fields.get? ys k with
      | some y => alike x y && alikeFields xs ys
      | none => false

end

/-- Truth values and numbers without a fraction as whole numbers.  Two documents
without parts are alike when this form of them is the same. -/
def keyForm (x : Json) : Json :=
  match x.wholeNumber? with
  | some n => .int n
  | none => x

def isText (x : Json) (s : String) : Bool :=
  x.alike (.str s)

def isNumber (x : Json) (n : Int) : Bool :=
  x.alike (.int n)

theorem isNumber_int_iff (a b : Int) : isNumber (.int a) b = true ↔ a = b := by
  simp only [isNumber, alike, wholeNumber?, beq_iff_eq, Option.some.injEq]
  exact eq_comm

/-- The value of a field, if the document is a record that has it. -/
def field? (x : Json) (name : String) : Option Json :=
  match x with
  | .obj fields => Fields.get? fields name
  | _ => none

/-- A record with the names and values as given. -/
def record (fields : List (String × Json)) : Json :=
  .obj fields

/-- A null for what is absent. -/
def ofOption {α : Type} (f : α → Json) : Option α → Json
  | none => .null
  | some a => f a

end Json

end AppOperator
