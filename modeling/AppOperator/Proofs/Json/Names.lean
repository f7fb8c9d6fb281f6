import AppOperator.Json.Reader
import AppOperator.Proofs.Json.Editing

/-!
# Records with different names

Of several fields with one name only the first is ever found.  No record that is read from a
text has such fields: what is read has different names in all its records, the ones inside of it
as well (`Json.namesDiffer_of_parse`).
-/

set_option autoImplicit false

namespace AppOperator

/-! ## Fields made from pairs -/

namespace Fields

variable {fields pairs : Fields} {name : String} {x value : Json}

theorem mem_of_mem_set {field : String × Json} (among : field ∈ set fields name value) :
    field ∈ fields ∨ field = (name, value) := by
  induction fields with
  | nil => exact .inr (List.mem_singleton.mp among)
  | cons first rest ih =>
      obtain ⟨key, old⟩ := first
      by_cases same : (key == name) = true
      · rw [set, if_pos same] at among
        rw [eq_of_beq same] at among
        obtain rfl | among := List.mem_cons.mp among
        · exact .inr rfl
        · exact .inl (List.mem_cons_of_mem _ among)
      · rw [set, if_neg same] at among
        obtain rfl | among := List.mem_cons.mp among
        · exact .inl List.mem_cons_self
        · exact (ih among).imp (List.mem_cons_of_mem _) id

theorem set_ne_nil (fields : Fields) (name : String) (value : Json) : set fields name value ≠ [] := by
  intro none
  have found := get?_set_self fields name value
  rw [none] at found
  cases found

theorem nodup_set (differ : (fields.map (·.1)).Nodup) (name : String) (value : Json) :
    ((set fields name value).map (·.1)).Nodup := by
  induction fields with
  | nil => simp [set]
  | cons first rest ih =>
      obtain ⟨key, old⟩ := first
      rw [List.map_cons, List.nodup_cons] at differ
      by_cases same : (key == name) = true
      · rw [set, if_pos same, List.map_cons, List.nodup_cons]
        exact differ
      · rw [set, if_neg same, List.map_cons, List.nodup_cons]
        refine ⟨?_, ih differ.2⟩
        intro among
        obtain ⟨field, inside, isKey⟩ := List.mem_map.mp among
        obtain inside | rfl := mem_of_mem_set inside
        · exact differ.1 (List.mem_map.mpr ⟨field, inside, isKey⟩)
        · exact same (beq_iff_eq.mpr isKey.symm)

theorem set_of_new (new : name ∉ fields.map (·.1)) : set fields name value = fields ++ [(name, value)] := by
  induction fields with
  | nil => rfl
  | cons first rest ih =>
      obtain ⟨key, old⟩ := first
      rw [List.map_cons, List.mem_cons, not_or] at new
      have different : ¬ (key == name) = true := by
        rw [beq_iff_eq]
        exact Ne.symm new.1
      rw [set, if_neg different, ih new.2, List.cons_append]

theorem mem_of_mem_ofPairs {field : String × Json} (among : field ∈ ofPairs pairs) :
    field ∈ pairs := by
  have inside : ∀ (pairs fields : Fields),
      field ∈ pairs.foldl (fun fields pair => set fields pair.1 pair.2) fields →
        field ∈ fields ∨ field ∈ pairs := by
    intro pairs
    induction pairs with
    | nil => exact fun fields among => .inl among
    | cons pair rest ih =>
        intro fields among
        obtain among | among := ih _ among
        · obtain among | rfl := mem_of_mem_set among
          · exact .inl among
          · exact .inr List.mem_cons_self
        · exact .inr (List.mem_cons_of_mem _ among)
  simpa using inside pairs [] among

/-- Only from no pairs no fields are made. -/
theorem isEmpty_ofPairs (pairs : Fields) : (ofPairs pairs).isEmpty = pairs.isEmpty := by
  have kept : ∀ (pairs fields : Fields), fields ≠ [] →
      pairs.foldl (fun fields pair => set fields pair.1 pair.2) fields ≠ [] := by
    intro pairs
    induction pairs with
    | nil => exact fun fields some_ => some_
    | cons pair rest ih => exact fun fields _ => ih _ (set_ne_nil fields pair.1 pair.2)
  cases pairs with
  | nil => rfl
  | cons pair rest =>
      rw [ofPairs, List.foldl_cons, List.isEmpty_cons, List.isEmpty_eq_false_iff]
      exact kept rest _ (set_ne_nil [] pair.1 pair.2)

/-- Fields made from pairs have different names. -/
theorem nodup_ofPairs (pairs : Fields) : ((ofPairs pairs).map (·.1)).Nodup := by
  have kept : ∀ (pairs fields : Fields), (fields.map (·.1)).Nodup →
      ((pairs.foldl (fun fields pair => set fields pair.1 pair.2) fields).map (·.1)).Nodup := by
    intro pairs
    induction pairs with
    | nil => exact fun fields differ => differ
    | cons pair rest ih => exact fun fields differ => ih _ (nodup_set differ pair.1 pair.2)
  exact kept pairs [] List.nodup_nil

/-- Pairs with different names are the fields that are made from them. -/
theorem ofPairs_of_nodup (differ : (pairs.map (·.1)).Nodup) : ofPairs pairs = pairs := by
  have appended : ∀ (pairs fields : Fields), ((fields ++ pairs).map (·.1)).Nodup →
      pairs.foldl (fun fields pair => set fields pair.1 pair.2) fields = fields ++ pairs := by
    intro pairs
    induction pairs with
    | nil => exact fun fields _ => (List.append_nil fields).symm
    | cons pair rest ih =>
        intro fields differ
        have new : pair.1 ∉ fields.map (·.1) := by
          rw [List.map_append, List.map_cons, List.nodup_append] at differ
          intro among
          exact differ.2.2 _ among _ List.mem_cons_self rfl
        rw [List.foldl_cons, set_of_new new, ih, List.append_assoc, List.singleton_append]
        rwa [List.append_assoc, List.singleton_append]
  exact appended pairs [] differ

/-- A name that stands in front of one value only is found with that value. -/
theorem get?_ofPairs (among : (name, x) ∈ pairs) (only : ∀ y, (name, y) ∈ pairs → y = x) :
    get? (ofPairs pairs) name = some x := by
  have found : ∀ (pairs fields : Fields), (∀ y, (name, y) ∈ pairs → y = x) →
      get? fields name = some x ∨ (name, x) ∈ pairs →
      get? (pairs.foldl (fun fields pair => set fields pair.1 pair.2) fields) name = some x := by
    intro pairs
    induction pairs with
    | nil =>
        intro fields _ found
        simpa using found
    | cons pair rest ih =>
        intro fields only found
        obtain ⟨key, value⟩ := pair
        refine ih _ (fun y among => only y (List.mem_cons_of_mem _ among)) ?_
        by_cases same : key = name
        · subst same
          rw [get?_set_self, only value List.mem_cons_self]
          exact .inl rfl
        · rw [get?_set_of_ne fields value (Ne.symm same)]
          refine found.imp id fun among => ?_
          obtain first | among := List.mem_cons.mp among
          · cases first
            exact absurd rfl same
          · exact among
  exact found pairs [] only (.inr among)

end Fields

namespace Json

/-- All the records of a document have fields with different names. -/
inductive NamesDiffer : Json → Prop where
  | null : NamesDiffer .null
  | bool (value : Bool) : NamesDiffer (.bool value)
  | int (value : Int) : NamesDiffer (.int value)
  | float (value : Binary64) : NamesDiffer (.float value)
  | str (value : String) : NamesDiffer (.str value)
  | arr {items : List Json} (inside : ∀ x ∈ items, NamesDiffer x) : NamesDiffer (.arr items)
  | obj {fields : Fields} (differ : (fields.map (·.1)).Nodup)
      (inside : ∀ field ∈ fields, NamesDiffer field.2) : NamesDiffer (.obj fields)

theorem namesDiffer_of_readWord {cs : List Char} {x : Json} {width : Nat}
    (word : readWord? cs = some (x, width)) : x.NamesDiffer := by
  unfold readWord? at word
  obtain ⟨entry, found, same⟩ := Option.map_eq_some_iff.mp word
  have among := List.mem_of_find?_eq_some found
  cases same
  simp only [words, List.mem_cons, List.not_mem_nil, or_false] at among
  obtain rfl | rfl | rfl | rfl | rfl | rfl := among <;> constructor

theorem namesDiffer_of_readNumber {cs : List Char} {x : Json} {count : Nat}
    (number : readNumber? cs = some (.ok x, count)) : x.NamesDiffer := by
  unfold readNumber? at number
  extract_lets negative body digits whole signWidth after fraction fractionWidth rest exponent
    width at number
  by_cases none : whole.isEmpty = true
  · rw [if_pos none] at number
    cases number
  · rw [if_neg none] at number
    by_cases isWhole : (fraction.isEmpty && exponent.isNone) = true
    · rw [if_pos isWhole] at number
      by_cases long : whole.length > mostDigits
      · rw [if_pos long] at number
        cases number
      · rw [if_neg long, Option.some.injEq, Prod.mk.injEq, Except.ok.injEq] at number
        rw [← number.1]
        exact .int _
    · rw [if_neg isWhole, Option.some.injEq, Prod.mk.injEq, Except.ok.injEq] at number
      rw [← number.1]
      exact .float _

/-- What is read at some place has different names; so have the items and the values that are
read one after the other. -/
theorem namesDiffer_of_reads (fuel : Nat) :
    (∀ depth c x after, readValue fuel depth c = .ok (x, after) → x.NamesDiffer) ∧
      (∀ depth c items after, readItems fuel depth c = .ok (items, after) →
        ∀ x ∈ items, x.NamesDiffer) ∧
      ∀ depth c pairs after, readPairs fuel depth c = .ok (pairs, after) →
        ∀ pair ∈ pairs, pair.2.NamesDiffer := by
  induction fuel with
  | zero => simp [readValue, readItems, readPairs, Cursor.fail]
  | succ fuel ih =>
      obtain ⟨values, items, pairs⟩ := ih
      refine ⟨?value, ?items, ?pairs⟩
      case value =>
        intro depth c x after reads
        rw [readValue] at reads
        split at reads
        · obtain ⟨⟨s, next⟩, -, same⟩ := bind_eq_ok_iff.mp reads
          cases same
          exact .str s
        · dsimp only at reads
          split at reads
          · cases reads
          · split at reads
            · cases reads
              exact .arr (fun x among => by cases among)
            · obtain ⟨⟨inside, next⟩, readsItems, same⟩ := bind_eq_ok_iff.mp reads
              cases same
              exact .arr (items _ _ _ _ readsItems)
        · split at reads
          · dsimp only at reads
            split at reads
            · cases reads
            · split at reads
              · cases reads
                exact .obj List.nodup_nil (fun field among => by cases among)
              · obtain ⟨⟨inside, next⟩, readsPairs, same⟩ := bind_eq_ok_iff.mp reads
                cases same
                refine .obj (Fields.nodup_ofPairs inside) ?_
                intro field among
                exact pairs _ _ _ _ readsPairs field (Fields.mem_of_mem_ofPairs among)
          · split at reads
            · next word =>
                cases reads
                exact namesDiffer_of_readWord word
            · split at reads
              · next number =>
                  cases reads
                  exact namesDiffer_of_readNumber number
              · cases reads
              · cases reads
        · cases reads
      case items =>
        intro depth c list after reads
        rw [readItems] at reads
        obtain ⟨⟨first, next⟩, readsFirst, reads⟩ := bind_eq_ok_iff.mp reads
        have isFirst := values _ _ _ _ readsFirst
        dsimp only at reads
        split at reads
        · cases reads
          simpa using isFirst
        · obtain ⟨⟨rest, last⟩, readsRest, same⟩ := bind_eq_ok_iff.mp reads
          cases same
          exact List.forall_mem_cons.mpr ⟨isFirst, items _ _ _ _ readsRest⟩
        · cases reads
      case pairs =>
        intro depth c list after reads
        rw [readPairs] at reads
        split at reads
        · obtain ⟨⟨name, colon⟩, -, reads⟩ := bind_eq_ok_iff.mp reads
          dsimp only at reads
          split at reads
          · cases reads
          · obtain ⟨⟨first, next⟩, readsFirst, reads⟩ := bind_eq_ok_iff.mp reads
            have isFirst := values _ _ _ _ readsFirst
            dsimp only at reads
            split at reads
            · cases reads
              simpa using isFirst
            · split at reads
              · obtain ⟨⟨rest, last⟩, readsRest, same⟩ := bind_eq_ok_iff.mp reads
                cases same
                exact List.forall_mem_cons.mpr ⟨isFirst, pairs _ _ _ _ readsRest⟩
              · cases reads
        · cases reads

/-- What is read from a text has different names in all its records. -/
theorem namesDiffer_of_parse {text : String} {x : Json} (reads : parse text = .ok x) :
    x.NamesDiffer := by
  rw [parse, read] at reads
  split at reads
  · cases reads
  · obtain ⟨⟨value, after⟩, readsValue, reads⟩ := bind_eq_ok_iff.mp reads
    dsimp only at reads
    split at reads
    · cases reads
      exact (namesDiffer_of_reads _).1 _ _ _ _ readsValue
    · cases reads

end Json

end AppOperator
