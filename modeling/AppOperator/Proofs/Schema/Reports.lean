import AppOperator.Proofs.Text.Messages
import AppOperator.Schema

/-!
# Reports that are taken apart

The lines of a report are joined with a semicolon and a blank, and the joined text is taken apart
where these stand (`Schema.parts`).  Joining the parts gives the text again, but the parts are the
lines only if no line has the separator inside.  All that a rule says in its own words is free of
semicolons, so just the values that messages show can bring one in.
-/

set_option autoImplicit false

namespace AppOperator

/-! ## Parts of a text -/

namespace Schema

/-- A semicolon with a blank behind it stands somewhere in the text. -/
def HasSeparator (s : String) : Prop :=
  ∃ before after, s = before ++ "; " ++ after

theorem hasSeparator_iff {s : String} :
    HasSeparator s ↔ ∃ before after, s.toList = before ++ ';' :: ' ' :: after := by
  constructor
  · rintro ⟨before, after, rfl⟩
    exact ⟨before.toList, after.toList, by simp⟩
  · rintro ⟨before, after, same⟩
    refine ⟨String.ofList before, String.ofList after, ?_⟩
    rw [← String.toList_inj, same]
    simp

theorem parts_ne_nil (cs : List Char) : parts cs ≠ [] := by
  fun_induction parts cs <;> simp

/-- Joining the parts of a text gives the text. -/
theorem intercalate_parts (cs : List Char) : [';', ' '].intercalate (parts cs) = cs := by
  fun_induction parts cs with
  | case1 => rfl
  | case2 rest ih =>
      rw [List.intercalate_cons_of_ne_nil (parts_ne_nil rest), ih]
      rfl
  | case3 c rest _ none => exact absurd none (parts_ne_nil rest)
  | case4 c rest _ part others isParts ih =>
      rw [isParts] at ih
      rw [List.intercalate_cons_cons_left, ih]

theorem mem_intercalate_of_mem {separator item : List Char} {items : List (List Char)} {c : Char}
    (isItem : item ∈ items) (inside : c ∈ item) : c ∈ separator.intercalate items := by
  induction items with
  | nil => cases isItem
  | cons first rest ih =>
      cases rest with
      | nil =>
          cases List.mem_singleton.mp isItem
          rwa [List.intercalate_singleton]
      | cons next rest =>
          rw [List.intercalate_cons_cons, List.mem_append]
          obtain rfl | isItem := List.mem_cons.mp isItem
          · exact .inl (List.mem_append_left _ inside)
          · exact .inr (ih isItem)

/-- The characters of a part are characters of the text. -/
theorem mem_of_mem_parts {cs part : List Char} {c : Char} (isPart : part ∈ parts cs)
    (inside : c ∈ part) : c ∈ cs := by
  rw [← intercalate_parts cs]
  exact mem_intercalate_of_mem isPart inside

theorem parts_append (before after : List Char) :
    parts (before ++ ';' :: ' ' :: after) = parts before ++ parts after := by
  fun_induction parts before with
  | case1 => rw [List.nil_append, parts, List.singleton_append]
  | case2 rest ih => rw [List.cons_append, List.cons_append, parts, ih, List.cons_append]
  | case3 c rest _ none => exact absurd none (parts_ne_nil rest)
  | case4 c rest apart part others isParts ih =>
      rw [isParts, List.cons_append] at ih
      rw [List.cons_append, parts, ih]
      · rfl
      · -- what is put behind starts with a semicolon, so it makes no separator with `c`
        intro more isSemicolon starts
        cases rest with
        | nil => cases starts
        | cons d rest =>
            cases starts
            exact apart rest isSemicolon rfl

theorem messageParts_ne_nil (s : String) : messageParts s ≠ [] := by
  simpa [messageParts] using parts_ne_nil s.toList

/-- A text is its only part if the separator stands nowhere in it. -/
theorem messageParts_eq_singleton_iff {s : String} : messageParts s = [s] ↔ ¬ HasSeparator s := by
  constructor
  · intro whole separated
    obtain ⟨before, after, same⟩ := hasSeparator_iff.mp separated
    have count := congrArg List.length whole
    rw [messageParts, List.length_map, same, parts_append, List.length_append,
      List.length_singleton] at count
    have first := List.length_pos_iff.mpr (parts_ne_nil before)
    have second := List.length_pos_iff.mpr (parts_ne_nil after)
    omega
  · intro whole
    have joined := intercalate_parts s.toList
    obtain ⟨part, others, isParts⟩ := List.exists_cons_of_ne_nil (parts_ne_nil s.toList)
    rw [messageParts, isParts]
    rw [isParts] at joined
    cases others with
    | nil =>
        rw [List.intercalate_singleton] at joined
        rw [joined, List.map_singleton, String.ofList_toList]
    | cons next others =>
        rw [List.intercalate_cons_cons, List.append_assoc] at joined
        exact absurd (hasSeparator_iff.mpr ⟨part, _, joined.symm⟩) whole

/-- The parts of joined lines are those of the lines. -/
theorem messageParts_intercalate {lines : List String} (some_ : lines ≠ []) :
    messageParts ("; ".intercalate lines) = lines.flatMap messageParts := by
  induction lines with
  | nil => exact absurd rfl some_
  | cons line rest ih =>
      cases rest with
      | nil => simp
      | cons next rest =>
          rw [List.flatMap_cons, ← ih (List.cons_ne_nil _ _), String.intercalate_cons_cons]
          simp only [messageParts, String.toList_append, List.append_assoc]
          exact (congrArg _ (parts_append _ _)).trans List.map_append

/-- Joining the parts of joined lines gives the same text as joining the lines. -/
theorem intercalate_messageParts (s : String) : "; ".intercalate (messageParts s) = s := by
  rw [← String.toList_inj, String.toList_intercalate, messageParts, List.map_map]
  have same : String.toList ∘ String.ofList = id := funext fun _ => String.toList_ofList
  rw [same, List.map_id]
  exact intercalate_parts s.toList

theorem length_le_length_flatMap_messageParts (lines : List String) :
    lines.length ≤ (lines.flatMap messageParts).length := by
  induction lines with
  | nil => exact Nat.le_refl _
  | cons line rest ih =>
      have first := List.length_pos_iff.mpr (messageParts_ne_nil line)
      rw [List.flatMap_cons, List.length_append, List.length_cons]
      omega

/-- Lines come out as they went in if none of them has the separator inside. -/
theorem flatMap_messageParts_eq_iff {lines : List String} :
    lines.flatMap messageParts = lines ↔ ∀ line ∈ lines, ¬ HasSeparator line := by
  induction lines with
  | nil => simp
  | cons line rest ih =>
      rw [List.flatMap_cons, List.forall_mem_cons, ← ih, ← messageParts_eq_singleton_iff]
      constructor
      · intro same
        obtain ⟨part, others, isParts⟩ := List.exists_cons_of_ne_nil (messageParts_ne_nil line)
        rw [isParts, List.cons_append, List.cons.injEq] at same
        obtain ⟨rfl, same⟩ := same
        -- the rest gives no fewer parts than it has lines, so the first line gives no other one
        have count := congrArg List.length same
        have least := length_le_length_flatMap_messageParts rest
        rw [List.length_append] at count
        have none : others = [] := List.length_eq_zero_iff.mp (by omega)
        rw [none] at isParts same
        exact ⟨isParts, same⟩
      · rintro ⟨first, others⟩
        rw [first, others, List.singleton_append]

end Schema

/-! ## What rules say -/

namespace Schema

variable {s t : String}

/-- In front of a text, words without a semicolon bring no separator in. -/
theorem hasSeparator_append_left (plain : Text.IsPlain s) :
    HasSeparator (s ++ t) ↔ HasSeparator t := by
  simp only [hasSeparator_iff, String.toList_append]
  constructor
  · rintro ⟨before, after, same⟩
    obtain ⟨own, rfl, inside⟩ | ⟨own, isText, inside⟩ := List.append_eq_append_iff.mp same
    · exact ⟨own, after, inside⟩
    · cases own with
      | nil => exact ⟨[], after, inside.symm⟩
      | cons c own =>
          obtain ⟨rfl, -⟩ := List.cons.inj inside
          exact absurd (by simp [isText]) (Text.semicolon_notMem_of_plain plain)
  · rintro ⟨before, after, same⟩
    exact ⟨s.toList ++ before, after, by rw [same, List.append_assoc]⟩

/-- Behind a text that does not end in a semicolon they bring none in either. -/
theorem hasSeparator_append_right (plain : Text.IsPlain t) (last : s.toList.getLast? ≠ some ';') :
    HasSeparator (s ++ t) ↔ HasSeparator s := by
  simp only [hasSeparator_iff, String.toList_append]
  constructor
  · rintro ⟨before, after, same⟩
    obtain ⟨own, rfl, inside⟩ | ⟨own, isText, inside⟩ := List.append_eq_append_iff.mp same
    · exact absurd (by simp [inside]) (Text.semicolon_notMem_of_plain plain)
    · match own with
      | [] =>
          rw [List.nil_append] at inside
          exact absurd (by simp [← inside]) (Text.semicolon_notMem_of_plain plain)
      | [c] =>
          obtain ⟨rfl, -⟩ := List.cons.inj inside
          exact absurd (by rw [isText, List.getLast?_concat]) last
      | c :: d :: rest =>
          obtain ⟨rfl, behind⟩ := List.cons.inj inside
          obtain ⟨rfl, -⟩ := List.cons.inj behind
          exact ⟨before, rest, isText⟩
  · rintro ⟨before, after, same⟩
    exact ⟨before, after ++ t.toList, by simp [same]⟩

end Schema

mutual

/-- The words and names that a rule has of its own, as its messages write them. -/
def Rule.words : Rule → List String
  | .required names => names.map Text.quoted
  | .properties schemas => propertyWords schemas
  | .const expected => [Text.quoted expected]
  | .pattern pattern => [Text.quoted pattern.text]
  | _ => []

def propertyWords : List (String × List Rule) → List String
  | [] => []
  | (name, schema) :: rest => name :: schemaWords schema ++ propertyWords rest

def schemaWords : List Rule → List String
  | [] => []
  | rule :: rest => rule.words ++ schemaWords rest

end

open Text (IsPlain IsPrinted IsShown)

section Violations

variable {δ : Type} [Checkable δ] {path : List String} {x : δ} {v : Violation δ}

open Checkable

/-- The line about a violation is plain but for the value that it shows. -/
inductive Violation.Framed : Violation δ → Prop where
  | alone {v : Violation δ} (none : v.subject = none) (plain : IsPlain v.text) : Framed v
  | around {v : Violation δ} {x : δ} {before after : String} (about : v.subject = some x)
      (text : v.text = before ++ shown x ++ after) (plainBefore : IsPlain before)
      (plainAfter : IsPlain after) : Framed v

theorem isPlain_place (plain : ∀ name ∈ path, IsPlain name) :
    IsPlain ((if path.isEmpty then "(root)" else ".".intercalate path) ++ ": ") := by
  refine .append ?_ (by decide)
  split
  · decide
  · exact .intercalate (by decide) plain

theorem framed_of_mem_showing {broken : Bool} {message tail : String}
    (among : v ∈ violatedIf broken path (some x) message) (shows : message = shown x ++ tail)
    (plain : ∀ name ∈ path, IsPlain name) (plainTail : IsPlain tail) : v.Framed := by
  unfold violatedIf at among
  split at among
  · cases List.mem_singleton.mp among
    refine .around rfl ?_ (isPlain_place plain) plainTail
    rw [Violation.text, shows, ← String.append_assoc]
  · cases among

theorem framed_of_mem_silent {broken : Bool} {message : String}
    (among : v ∈ violatedIf broken path none message) (plain : ∀ name ∈ path, IsPlain name)
    (plainMessage : IsPlain message) : v.Framed := by
  unfold violatedIf at among
  split at among
  · cases List.mem_singleton.mp among
    exact .alone rfl ((isPlain_place plain).append plainMessage)
  · cases among

mutual

/-- What a rule with plain words says is plain but for the values that are shown. -/
theorem Rule.framed : ∀ (rule : Rule) (path : List String) (x : δ), (∀ word ∈ rule.words, IsPlain word) →
    (∀ name ∈ path, IsPlain name) → ∀ v ∈ rule.violations path x, v.Framed
  | .type expected, path, x, _, place, v, among => by
      refine framed_of_mem_showing among (by simp only [String.append_assoc]; rfl) place ?_
      cases expected <;> decide
  | .required names, path, x, plain, place, v, among => by
      obtain ⟨name, isName, among⟩ := List.mem_flatMap.mp among
      exact framed_of_mem_silent among place
        (.append (plain _ (List.mem_map_of_mem isName)) (by decide))
  | .properties schemas, path, x, plain, place, v, among =>
      framed_properties schemas path x plain place v among
  | .const expected, path, x, plain, place, v, among =>
      framed_of_mem_silent among place (.append (plain _ List.mem_cons_self) (by decide))
  | .minLength _, path, x, _, place, v, among => framed_of_mem_showing among rfl place (by decide)
  | .maxLength _, path, x, _, place, v, among => framed_of_mem_showing among rfl place (by decide)
  | .pattern pattern, path, x, plain, place, v, among =>
      framed_of_mem_showing among String.append_assoc place
        (.append (by decide) (plain _ List.mem_cons_self))
  | .minimum bound, path, x, _, place, v, among =>
      framed_of_mem_showing among String.append_assoc place
        (.append (by decide) (Text.isPlain_intText bound))
  | .maximum bound, path, x, _, place, v, among =>
      framed_of_mem_showing among String.append_assoc place
        (.append (by decide) (Text.isPlain_intText bound))

theorem framed_properties : ∀ (schemas : List (String × List Rule)) (path : List String) (x : δ),
    (∀ word ∈ propertyWords schemas, IsPlain word) → (∀ name ∈ path, IsPlain name) →
      ∀ v ∈ propertyViolations path x schemas, v.Framed
  | [], _, _, _, _, _, among => by cases among
  | (name, schema) :: rest, path, x, plain, place, v, among => by
      rw [propertyWords, List.cons_append, List.forall_mem_cons, List.forall_mem_append] at plain
      obtain ⟨own, inside, others⟩ := plain
      obtain among | among := List.mem_append.mp among
      · split at among
        · next value _ =>
            refine framed_schema schema (path ++ [name]) value inside ?_ v among
            exact List.forall_mem_append.mpr ⟨place, List.forall_mem_singleton.mpr own⟩
        · cases among
      · exact framed_properties rest path x others place v among

theorem framed_schema : ∀ (schema : List Rule) (path : List String) (x : δ),
    (∀ word ∈ schemaWords schema, IsPlain word) → (∀ name ∈ path, IsPlain name) →
      ∀ v ∈ schemaViolations path x schema, v.Framed
  | [], _, _, _, _, _, among => by cases among
  | rule :: rest, path, x, plain, place, v, among => by
      rw [schemaWords, List.forall_mem_append] at plain
      obtain among | among := List.mem_append.mp among
      · exact rule.framed path x plain.1 place v among
      · exact framed_schema rest path x plain.2 place v among

end

theorem Schema.framed {schema : Schema} (words : ∀ word ∈ schemaWords schema, IsPlain word)
    (among : v ∈ schema.violations x) : v.Framed :=
  framed_schema schema [] x words (List.forall_mem_nil _) v (List.mem_mergeSort.mp among)

/-- A line has the separator inside if the value that it shows does. -/
theorem Violation.Framed.hasSeparator_iff (framed : v.Framed)
    (shows : ∀ x : δ, IsShown (shown x)) : Schema.HasSeparator v.text ↔
      ∃ x, v.subject = some x ∧ Schema.HasSeparator (shown x) := by
  cases framed with
  | alone none plain =>
      rw [none, ← String.append_empty (s := v.text), Schema.hasSeparator_append_left plain]
      simp [Schema.hasSeparator_iff]
  | around about text plainBefore plainAfter =>
      rw [text, String.append_assoc, Schema.hasSeparator_append_left plainBefore,
        Schema.hasSeparator_append_right plainAfter (shows _).last, about]
      simp

theorem Violation.Framed.printed (framed : v.Framed) (shows : ∀ x : δ, IsShown (shown x)) :
    IsPrinted v.text := by
  cases framed with
  | alone none plain => exact Text.printed_of_plain plain
  | around about text plainBefore plainAfter =>
      rw [text]
      exact ((Text.printed_of_plain plainBefore).append (shows _).printed).append
        (Text.printed_of_plain plainAfter)

/-! ## Reports -/

namespace Schema

variable {schema : Schema}

/-- The values that the errors of a document are about, as they are shown. -/
def shownValues (schema : Schema) (x : δ) : List String :=
  (schema.violations x).filterMap fun v => v.subject.map shown

theorem message?_eq_some_iff {message : String} : schema.message? x = some message ↔
    schema.report x ≠ [] ∧ message = "; ".intercalate (schema.report x) := by
  unfold message?
  cases schema.report x with
  | nil => simp
  | cons line rest => simp [eq_comm]

/-- A report comes out of its message as it went in if no value in it shows the separator. -/
theorem flatMap_report_eq_iff (words : ∀ word ∈ schemaWords schema, IsPlain word)
    (shows : ∀ x : δ, IsShown (shown x)) :
    (schema.report x).flatMap messageParts = schema.report x ↔
      ∀ value ∈ schema.shownValues x, ¬ HasSeparator value := by
  rw [flatMap_messageParts_eq_iff, report, List.forall_mem_map]
  constructor
  · intro whole value among separated
    obtain ⟨v, isViolation, isValue⟩ := List.mem_filterMap.mp among
    obtain ⟨own, isSubject, rfl⟩ := Option.map_eq_some_iff.mp isValue
    have framed := Schema.framed words isViolation
    exact whole v isViolation ((framed.hasSeparator_iff shows).mpr ⟨own, isSubject, separated⟩)
  · intro none v isViolation separated
    have framed := Schema.framed words isViolation
    obtain ⟨own, isSubject, separated⟩ := (framed.hasSeparator_iff shows).mp separated
    refine none _ (List.mem_filterMap.mpr ⟨v, isViolation, ?_⟩) separated
    rw [isSubject, Option.map_some]

theorem printed_of_mem_flatMap (words : ∀ word ∈ schemaWords schema, IsPlain word)
    (shows : ∀ x : δ, IsShown (shown x)) :
    ∀ part ∈ (schema.report x).flatMap messageParts, IsPrinted part := by
  intro part among
  obtain ⟨line, isLine, isPart⟩ := List.mem_flatMap.mp among
  obtain ⟨v, isViolation, rfl⟩ := List.mem_map.mp isLine
  obtain ⟨own, isOwn, rfl⟩ := List.mem_map.mp isPart
  intro c inside
  rw [String.toList_ofList] at inside
  exact (Schema.framed words isViolation).printed shows c (mem_of_mem_parts isOwn inside)

end Schema

end Violations

theorem Schema.declaration_words : ∀ word ∈ schemaWords Schema.declaration, IsPlain word := by
  decide +kernel

end AppOperator
