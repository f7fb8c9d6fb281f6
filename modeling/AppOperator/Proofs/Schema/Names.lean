import AppOperator.Proofs.Schema.Validity
import AppOperator.Proofs.Text.Patterns

/-!
# Names that the schema accepts

A label is a row of small letters, digits and hyphens with no hyphen at either end
(`IsLabel`).  The pattern of names is found in just the labels and, since a place before
one last line break counts as an end, in labels with a line break behind them.  Of a
declaration that is in order apart from its name this decides whether it is accepted.
-/

set_option autoImplicit false

namespace AppOperator

/-! ## Labels -/

structure IsLabel (cs : List Char) : Prop where
  notEmpty : 1 ≤ cs.length
  plain : ∀ c ∈ cs, ('a' ≤ c ∧ c ≤ 'z') ∨ ('0' ≤ c ∧ c ≤ '9') ∨ c = '-'
  first : cs.head? ≠ some '-'
  last : cs.getLast? ≠ some '-'

namespace Text

open Pattern

def IsEdge (c : Char) : Prop :=
  ('a' ≤ c ∧ c ≤ 'z') ∨ ('0' ≤ c ∧ c ≤ '9')

theorem not_isEdge_hyphen : ¬ IsEdge '-' := by
  simp [IsEdge]

theorem isAmong_edge_iff {c : Char} : isAmong [('a', 'z'), ('0', '9')] c = true ↔ IsEdge c := by
  simp [isAmong, IsEdge]

theorem isAmong_inner_iff {c : Char} :
    isAmong [('-', '-'), ('a', 'z'), ('0', '9')] c = true ↔ IsEdge c ∨ c = '-' := by
  have hyphen : '-' ≤ c ∧ c ≤ '-' ↔ c = '-' := by
    constructor
    · rintro ⟨least, most⟩
      exact Char.le_antisymm most least
    · rintro rfl
      exact ⟨Char.le_refl _, Char.le_refl _⟩
  simp only [isAmong, List.any_cons, List.any_nil, Bool.or_false, Bool.or_eq_true,
    Bool.and_eq_true, decide_eq_true_eq, hyphen, IsEdge]
  exact or_comm

/-- A label is one letter or digit, or two of them with a row between. -/
theorem isLabel_iff {cs : List Char} : IsLabel cs ↔ (∃ c, cs = [c] ∧ IsEdge c) ∨
    ∃ c run d, cs = c :: (run ++ [d]) ∧ IsEdge c ∧ (∀ e ∈ run, IsEdge e ∨ e = '-') ∧ IsEdge d := by
  constructor
  · rintro ⟨notEmpty, plain, first, last⟩
    have edge : ∀ c ∈ cs, c ≠ '-' → IsEdge c := by
      intro c among different
      exact (or_assoc.mpr (plain c among)).resolve_right different
    cases cs with
    | nil => simp at notEmpty
    | cons c rest =>
        have isFirst : IsEdge c := edge c List.mem_cons_self (by simpa using first)
        obtain rfl | ⟨run, d, rfl⟩ := List.eq_nil_or_concat rest
        · exact .inl ⟨c, rfl, isFirst⟩
        · rw [List.concat_eq_append] at plain last edge ⊢
          rw [← List.cons_append, List.getLast?_concat, ne_eq, Option.some.injEq] at last
          have isLast : IsEdge d := edge d (by simp) last
          refine .inr ⟨c, run, d, rfl, isFirst, ?_, isLast⟩
          intro e among
          exact or_assoc.mpr (plain e (by simp [among]))
  · rintro (⟨c, rfl, isEdge⟩ | ⟨c, run, d, rfl, isFirst, inside, isLast⟩)
    · have different : c ≠ '-' := by
        rintro rfl
        exact not_isEdge_hyphen isEdge
      exact {
        notEmpty := by simp
        plain := by simpa using or_assoc.mp (.inl isEdge)
        first := by simpa using different
        last := by simpa using different }
    · refine ⟨by simp, ?_, ?_, ?_⟩
      · intro e among
        simp only [List.mem_cons, List.mem_append, List.not_mem_nil, or_false] at among
        obtain rfl | among | rfl := among
        · exact or_assoc.mp (.inl isFirst)
        · exact or_assoc.mp (inside e among)
        · exact or_assoc.mp (.inl isLast)
      · simp only [List.head?_cons, ne_eq, Option.some.injEq]
        rintro rfl
        exact not_isEdge_hyphen isFirst
      · rw [← List.cons_append, List.getLast?_concat, ne_eq, Option.some.injEq]
        rintro rfl
        exact not_isEdge_hyphen isLast

theorem Spot.isEnd_iff {s : Spot} : s.isEnd = true ↔ s.rest = [] ∨ s.rest = ['\n'] := by
  simp [Spot.isEnd]

theorem leads_labelTail_iff {s t : Spot} :
    Leads (.optional (.seq (.many labelInner) labelEdge)) s t ↔ t = s ∨
      ∃ run d, s.rest = run ++ d :: t.rest ∧ t.position = s.position + run.length + 1 ∧
        (∀ e ∈ run, IsEdge e ∨ e = '-') ∧ IsEdge d := by
  simp only [leads_optional_iff, leads_seq_iff, labelInner, labelEdge, leads_many_oneOf_iff,
    leads_oneOf_iff, isAmong_edge_iff, isAmong_inner_iff]
  refine or_congr_right ?_
  constructor
  · rintro ⟨m, ⟨run, inside, rest, place⟩, d, isEdge, restM, placeM⟩
    exact ⟨run, d, by rw [rest, restM], by rw [placeM, place], inside, isEdge⟩
  · rintro ⟨run, d, rest, place, inside, isEdge⟩
    exact ⟨⟨s.position + run.length, d :: t.rest⟩, ⟨run, inside, rest, rfl⟩, d, isEdge, rfl, place⟩

/-- The pattern of names leads from the start of a text over a label to an end. -/
theorem label_leads_iff {s t : Spot} : label.Leads s t ↔ s.position = 0 ∧ t.isEnd = true ∧
    ∃ own, s.rest = own ++ t.rest ∧ t.position = own.length ∧ IsLabel own := by
  simp only [label, leads_seq_iff, leads_start_iff, leads_finish_iff, leads_labelTail_iff]
  simp only [labelEdge, leads_oneOf_iff, isAmong_edge_iff, isLabel_iff]
  constructor
  · rintro ⟨_, ⟨start, rfl⟩, m, ⟨c, isFirst, rest, place⟩, e, tail, atEnd, rfl⟩
    refine ⟨start, atEnd, ?_⟩
    obtain rfl | ⟨run, d, restM, placeM, inside, isLast⟩ := tail
    · exact ⟨[c], rest, by rw [place, start]; rfl, .inl ⟨c, rfl, isFirst⟩⟩
    · refine ⟨c :: (run ++ [d]), ?_, ?_, .inr ⟨c, run, d, rfl, isFirst, inside, isLast⟩⟩
      · rw [rest, restM]
        simp
      · rw [placeM, place, start]
        simp only [List.length_cons, List.length_append, List.length_nil]
        omega
  · rintro ⟨start, atEnd, own, rest, place, isOwn⟩
    refine ⟨s, ⟨start, rfl⟩, ?_⟩
    obtain ⟨c, rfl, isFirst⟩ | ⟨c, run, d, rfl, isFirst, inside, isLast⟩ := isOwn
    · exact ⟨t, ⟨c, isFirst, rest, by rw [place, start]; rfl⟩, t, .inl rfl, atEnd, rfl⟩
    · refine ⟨⟨s.position + 1, run ++ d :: t.rest⟩, ⟨c, isFirst, by simp [rest], rfl⟩, t, .inr
        ⟨run, d, rfl, ?_, inside, isLast⟩, atEnd, rfl⟩
      rw [place, start]
      simp only [List.length_cons, List.length_append, List.length_nil]
      omega

/-- Names are searched for and found: labels, and labels with a line break behind them. -/
theorem label_isFoundIn_iff {cs : List Char} : label.isFoundIn cs = true ↔
    IsLabel cs ∨ ∃ own, cs = own ++ ['\n'] ∧ IsLabel own := by
  simp only [isFoundIn_iff, label_leads_iff, Spot.isEnd_iff]
  constructor
  · rintro ⟨before, after, t, rfl, start, atEnd, own, rest, -, isOwn⟩
    -- searching does not help: only the start of the text counts as one
    have isStart : before = [] := List.eq_nil_of_length_eq_zero start
    subst isStart
    subst rest
    obtain ends | breaks := atEnd
    · rw [ends]
      exact .inl (by simpa using isOwn)
    · rw [breaks]
      exact .inr ⟨own, rfl, isOwn⟩
  · rintro (isOwn | ⟨own, rfl, isOwn⟩)
    · exact ⟨[], cs, ⟨cs.length, []⟩, rfl, rfl, .inl rfl, cs, by simp, rfl, isOwn⟩
    · exact ⟨[], own ++ ['\n'], ⟨own.length, ['\n']⟩, rfl, rfl, .inr rfl, own, rfl, rfl, isOwn⟩

end Text

/-! ## Declarations -/

section Declarations

variable {δ : Type} [Checkable δ] {x : δ} {path : List String}

open Checkable

/-- What a document gives as its name. -/
def nameOf? (x : δ) : Option δ :=
  ((aspect x).field? "metadata").bind fun metadata => (aspect metadata).field? "name"

/-- The rules of names find their pattern in the text, and it is not too long for them. -/
def Schema.AcceptsName (s : String) : Prop :=
  Text.Pattern.label.isFoundIn s.toList = true ∧ s.length ≤ 63

namespace Schema

def nameRules : Schema :=
  [.type .string, .pattern .label, .maxLength 63]

def unnamedMetadata : Schema :=
  [.type .object, .properties [("namespace", [.type .string])]]

/-- The rules of a declaration without those of its name. -/
def unnamed : Schema :=
  [.type .object, .required ["apiVersion", "kind", "metadata", "spec"],
    .properties
      [("apiVersion", [.type .string, .const apiVersion]),
        ("kind", [.type .string, .const declarationKind]),
        ("metadata", unnamedMetadata), ("spec", spec), ("status", status)]]

end Schema

theorem nameRules_eq_nil_iff :
    schemaViolations path x Schema.nameRules = [] ↔
      ∃ s, aspect x = .text s ∧ Schema.AcceptsName s := by
  simp only [Schema.nameRules, schemaViolations_cons_eq_nil_iff, schemaViolations_nil, Rule.violations,
    violatedIf_eq_nil_iff, and_true, Schema.AcceptsName]
  cases aspect x <;> simp [SchemaType.admits, Aspect.textHas, String.length_toList]

theorem exists_field_of_lacks {name : String}
    (isRecord : SchemaType.object.admits (aspect x) = true)
    (present : (aspect x).lacks name = false) : ∃ value, (aspect x).field? name = some value := by
  cases isAspect : aspect x with
  | record get? =>
      simpa [isAspect, Aspect.lacks, Aspect.field?, Option.isSome_iff_exists] using present
  | _ => simp [isAspect, SchemaType.admits] at isRecord

theorem lacks_of_field {name : String} {value : δ} (has : (aspect x).field? name = some value) :
    (aspect x).lacks name = false := by
  cases isAspect : aspect x with
  | record get? =>
      rw [isAspect] at has
      have isValue : get? name = some value := has
      simp [Aspect.lacks, isValue]
  | _ => simp [Aspect.lacks]

/-- Metadata are in order if they are apart from the name, and if they have a name. -/
theorem metadata_eq_nil_iff : schemaViolations path x Schema.metadata = [] ↔
    schemaViolations path x Schema.unnamedMetadata = [] ∧
      ∃ name s, (aspect x).field? "name" = some name ∧ aspect name = .text s ∧
        Schema.AcceptsName s := by
  have rules : Schema.metadata = [.type .object, .required ["name"],
      .properties [("name", Schema.nameRules), ("namespace", [.type .string])]] := rfl
  simp only [rules, Schema.unnamedMetadata, schemaViolations_cons_eq_nil_iff,
    schemaViolations_nil, required_eq_nil_iff, type_eq_nil_iff, properties_cons_eq_nil_iff,
    nameRules_eq_nil_iff, and_true, List.mem_singleton, forall_eq]
  constructor
  · rintro ⟨isRecord, present, named, others⟩
    obtain ⟨name, has⟩ := exists_field_of_lacks isRecord present
    obtain ⟨s, isText, accepts⟩ := named name has
    exact ⟨⟨isRecord, others⟩, name, s, has, isText, accepts⟩
  · rintro ⟨⟨isRecord, others⟩, name, s, has, isText, accepts⟩
    refine ⟨isRecord, lacks_of_field has, ?_, others⟩
    intro value found
    rw [has] at found
    cases found
    exact ⟨s, isText, accepts⟩

/-- A declaration is accepted if it is apart from its name, and if it has a name. -/
theorem Schema.declaration_eq_none_iff : Schema.declaration.message? x = none ↔
    Schema.unnamed.message? x = none ∧
      ∃ name s, nameOf? x = some name ∧ aspect name = .text s ∧ Schema.AcceptsName s := by
  simp only [Schema.message?_eq_none_iff, Schema.declaration, Schema.unnamed,
    schemaViolations_cons_eq_nil_iff, schemaViolations_nil, required_eq_nil_iff, type_eq_nil_iff,
    properties_cons_eq_nil_iff, metadata_eq_nil_iff, and_true]
  constructor
  · rintro ⟨isRecord, present, version, kind, metadata, others⟩
    obtain ⟨own, has⟩ := exists_field_of_lacks isRecord (present "metadata" (by simp))
    obtain ⟨-, name, s, named, isText, accepts⟩ := metadata own has
    refine ⟨⟨isRecord, present, version, kind, fun value found => (metadata value found).1, others⟩,
      name, s, ?_, isText, accepts⟩
    rw [nameOf?, has, Option.bind_some, named]
  · rintro ⟨⟨isRecord, present, version, kind, metadata, others⟩, name, s, named, isText, accepts⟩
    obtain ⟨own, has, named⟩ := Option.bind_eq_some_iff.mp named
    refine ⟨isRecord, present, version, kind, ?_, others⟩
    intro value found
    refine ⟨metadata value found, name, s, ?_, isText, accepts⟩
    rw [has] at found
    cases found
    exact named

/-- The rules of names accept short labels, and shorter ones with a line break behind them. -/
theorem Schema.acceptsName_iff {s : String} : Schema.AcceptsName s ↔
    IsLabel s.toList ∧ s.length ≤ 63 ∨
      ∃ own : String, s = own ++ "\n" ∧ IsLabel own.toList ∧ own.length ≤ 62 := by
  rw [Schema.AcceptsName, Text.label_isFoundIn_iff]
  constructor
  · rintro ⟨isOwn | ⟨own, broken, isOwn⟩, short⟩
    · exact .inl ⟨isOwn, short⟩
    · have same : s = String.ofList own ++ "\n" := by
        rw [← String.toList_inj, broken]
        simp
      refine .inr ⟨String.ofList own, same, by simpa using isOwn, ?_⟩
      rw [same, String.length_append] at short
      exact Nat.le_of_succ_le_succ short
  · rintro (⟨isOwn, short⟩ | ⟨own, rfl, isOwn, short⟩)
    · exact ⟨.inl isOwn, short⟩
    · refine ⟨.inr ⟨own.toList, by simp, isOwn⟩, ?_⟩
      rw [String.length_append]
      exact Nat.succ_le_succ short

/-- A declaration that is in order apart from its name is accepted exactly if its name is a text
of 1 to 63 small letters, digits and hyphens with no hyphen at either end, or such a text and a
line break behind it that together are no longer. -/
theorem declaration_is_accepted_by_its_name (x : δ) : Schema.declaration.message? x = none ↔
    Schema.unnamed.message? x = none ∧ ∃ name s, nameOf? x = some name ∧ aspect name = .text s ∧
      (IsLabel s.toList ∧ s.length ≤ 63 ∨
        ∃ own : String, s = own ++ "\n" ∧ IsLabel own.toList ∧ own.length ≤ 62) := by
  simp only [Schema.declaration_eq_none_iff, Schema.acceptsName_iff]

end Declarations

/-- A name with a line break behind it is accepted, although it is no label. -/
theorem name_with_line_break_is_accepted :
    let declared : Json := .obj [("apiVersion", .str "apps.myapp.io/v1"), ("kind", .str "SimpleApp"),
      ("metadata", .obj [("name", .str "web\n")]),
      ("spec", .obj [("image", .str "nginx:1"), ("containerPort", .int 8080)])]
    Schema.unnamed.message? declared = none ∧ nameOf? declared = some (.str "web\n") ∧
      Schema.declaration.message? declared = none ∧ ¬ IsLabel "web\n".toList := by
  intro declared
  refine ⟨Schema.message?_eq_none_iff.mpr rfl, rfl, Schema.message?_eq_none_iff.mpr ?_, ?_⟩
  · decide +kernel
  · rintro ⟨-, plain, -, -⟩
    have isPlain := plain '\n' (by decide)
    revert isPlain
    decide

end AppOperator
