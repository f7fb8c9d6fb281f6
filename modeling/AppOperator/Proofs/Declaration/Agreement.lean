import AppOperator.Proofs.Declaration.Reading
import AppOperator.Proofs.Schema.Validity

/-!
# What the schema accepts and what is read

The schema and the reader of specifications are two definitions of one format.  A
specification that the schema accepts has a text, whole numbers and their bounds at the
names of the wire (`Spec.Accepted`).  The reader wants the same of it, except that a
number with a fraction part of zero has to fit a word of 64 bits, and that it also goes
by the service port's own name where the wire name is absent.
-/

set_option autoImplicit false

namespace AppOperator

/-- A number without a fraction, written with one or without. -/
def Json.IsWhole (x : Json) (n : Int) : Prop :=
  x = .int n ∨ ∃ number, x = .float number ∧ number.toInt? = some n

/-- A number that is written with a fraction of zero and that 64 bits do not hold. -/
def Json.isLongFraction : Json → Bool
  | .float number =>
      match number.toInt? with
      | some n => 9223372036854775808 ≤ n.natAbs
      | none => false
  | _ => false

namespace Json.IsWhole

variable {x : Json} {n : Int}

theorem isNumber_iff {m : Int} (whole : x.IsWhole n) : x.isNumber m = true ↔ m = n := by
  obtain rfl | ⟨number, rfl, integral⟩ := whole
  · rw [isNumber_int_iff, eq_comm]
  · have agrees : (Json.float number).isNumber m = true ↔ n = m := by
      simp [isNumber, alike, wholeNumber?, integral]
    exact agrees.trans eq_comm

theorem not_isLongFraction (whole : x.IsWhole n) (small : n.natAbs < 9223372036854775808) :
    x.isLongFraction = false := by
  obtain rfl | ⟨number, rfl, integral⟩ := whole
  · rfl
  · simpa [isLongFraction, integral] using small

theorem isBelow (whole : x.IsWhole n) (bound : Int) :
    x.aspect.isBelow bound = decide (n < bound) := by
  obtain rfl | ⟨number, rfl, integral⟩ := whole
  · rfl
  · exact Binary64.ltInt_of_toInt? integral bound

theorem isAbove (whole : x.IsWhole n) (bound : Int) :
    x.aspect.isAbove bound = decide (n > bound) := by
  obtain rfl | ⟨number, rfl, integral⟩ := whole
  · rfl
  · exact Binary64.gtInt_of_toInt? integral bound

end Json.IsWhole

namespace Json

variable {x : Json}

theorem admits_integer_iff :
    SchemaType.integer.admits (Checkable.aspect x) = true ↔ ∃ n, x.IsWhole n := by
  cases x with
  | float number =>
      simp [Checkable.aspect, Json.aspect, SchemaType.admits, IsWhole, Binary64.isIntegral,
        Option.isSome_iff_exists]
  | _ => simp [Checkable.aspect, Json.aspect, SchemaType.admits, IsWhole]

theorem admits_from_iff {low : Int} :
    SchemaType.integer.admits (Checkable.aspect x) = true ∧ (Checkable.aspect x).isBelow low = false ↔
      ∃ n, x.IsWhole n ∧ low ≤ n := by
  rw [admits_integer_iff]
  constructor
  · rintro ⟨⟨n, whole⟩, notBelow⟩
    exact ⟨n, whole, by simpa using (whole.isBelow low).symm.trans notBelow⟩
  · rintro ⟨n, whole, least⟩
    exact ⟨⟨n, whole⟩, (whole.isBelow low).trans (by simpa using least)⟩

theorem admits_between_iff {low high : Int} :
    SchemaType.integer.admits (Checkable.aspect x) = true ∧ (Checkable.aspect x).isBelow low = false ∧
      (Checkable.aspect x).isAbove high = false ↔ ∃ n, x.IsWhole n ∧ low ≤ n ∧ n ≤ high := by
  rw [← and_assoc, admits_from_iff]
  constructor
  · rintro ⟨⟨n, whole, least⟩, notAbove⟩
    exact ⟨n, whole, least, by simpa using (whole.isAbove high).symm.trans notAbove⟩
  · rintro ⟨n, whole, least, most⟩
    exact ⟨⟨n, whole, least⟩, (whole.isAbove high).trans (by simpa using most)⟩

theorem admits_nonempty_iff :
    SchemaType.string.admits (Checkable.aspect x) = true ∧
      ((Checkable.aspect x).textHas fun cs => decide (cs.length < 1)) = false ↔
        ∃ s, x = .str s ∧ s ≠ "" := by
  cases x <;> simp [Checkable.aspect, Json.aspect, SchemaType.admits, Aspect.textHas]

end Json

/-! ## What the schema accepts -/

/-- The text, the whole numbers and the bounds of a specification at its wire names. -/
structure Spec.Accepted (fields : Fields) : Prop where
  image : ∃ x, Fields.get? fields "image" = some x ∧ ∃ s, x = .str s ∧ s ≠ ""
  replicas : ∀ x, Fields.get? fields "replicas" = some x → ∃ n, x.IsWhole n ∧ 1 ≤ n
  containerPort : ∃ x, Fields.get? fields "containerPort" = some x ∧
    ∃ n, x.IsWhole n ∧ 1 ≤ n ∧ n ≤ 65535
  servicePort : ∀ x, Fields.get? fields "servicePort" = some x → ∃ n, x.IsWhole n

/-- The schema of specifications says just that. -/
theorem Spec.message?_eq_none_iff {fields : Fields} :
    Schema.spec.message? (Json.obj fields) = none ↔ Accepted fields := by
  have record : Checkable.aspect (Json.obj fields) = .record (Fields.get? fields) := rfl
  rw [Schema.message?_eq_none_iff]
  simp only [Schema.spec, schemaViolations_cons_eq_nil_iff, schemaViolations_nil,
    required_eq_nil_iff]
  simp only [Rule.violations, propertyViolations_cons_eq_nil_iff, propertyViolations_nil,
    schemaViolations_cons_eq_nil_iff, schemaViolations_nil, violatedIf_eq_nil_iff, record,
    Bool.not_eq_false', and_true, Aspect.field?, Aspect.lacks, Json.admits_nonempty_iff,
    Json.admits_from_iff, Json.admits_between_iff]
  simp only [Json.admits_integer_iff]
  constructor
  · rintro ⟨-, required, image, replicas, containerPort, servicePort⟩
    have present : ∀ name ∈ ["image", "containerPort"],
        ∃ x, Fields.get? fields name = some x := by
      intro name among
      exact Option.isSome_iff_exists.mp (Option.isNone_eq_false_iff.mp (required name among))
    obtain ⟨its, found⟩ := present "image" (by simp)
    obtain ⟨port, listed⟩ := present "containerPort" (by simp)
    exact {
      image := ⟨its, found, image its found⟩
      replicas := replicas
      containerPort := ⟨port, listed, containerPort port listed⟩
      servicePort := servicePort }
  · rintro ⟨⟨its, found, image⟩, replicas, ⟨port, listed, containerPort⟩, servicePort⟩
    refine ⟨rfl, ?_, ?_, replicas, ?_, servicePort⟩
    · intro name among
      simp only [List.mem_cons, List.not_mem_nil, or_false] at among
      obtain rfl | rfl := among <;> simp [found, listed]
    · intro x stated
      rw [found] at stated
      cases stated
      exact image
    · intro x stated
      rw [listed] at stated
      cases stated
      exact containerPort

/-! ## What is read -/

namespace Checked

variable {fields : Fields} {path : List String} {x : Json}

theorem field_of_present {α : Type} {name : String} {names : List String}
    {check : List String → Json → Checked α} {default : Option α}
    (present : Fields.get? fields name = some x) :
    field fields (name :: names) check default = check [name] x := by
  simp [field, present]

theorem field_of_absent {α : Type} {name : String} {names : List String}
    {check : List String → Json → Checked α} {default : α}
    (absent : Fields.get? fields name = none) :
    field fields (name :: names) check (some default) =
      field fields names check (some default) := by
  simp [field, absent]

theorem field_nil {α : Type} {check : List String → Json → Checked α} {default : α} :
    field fields [] check (some default) = .ok default := rfl

theorem kept_eq_ok_iff {α : Type} {broken : Prop} [Decidable broken] {cause : FieldCause}
    {value wanted : α} :
    (if broken then fail path cause else pure value) = .ok wanted ↔ ¬broken ∧ value = wanted := by
  split <;> simp_all [fail, pure, Except.pure]

theorem nonEmptyText_eq_ok_iff {s : String} :
    nonEmptyText path x = .ok s ↔ x = .str s ∧ s ≠ "" := by
  simp only [nonEmptyText, bind_eq_ok_iff, text_eq_ok_iff, kept_eq_ok_iff, beq_iff_eq]
  constructor
  · rintro ⟨s, same, nonempty, rfl⟩
    exact ⟨same, nonempty⟩
  · rintro ⟨same, nonempty⟩
    exact ⟨s, same, nonempty, rfl⟩

theorem positive_eq_ok_iff {n : Int} :
    positive path x = .ok n ↔ whole path x = .ok n ∧ 1 ≤ n := by
  simp only [positive, bind_eq_ok_iff, kept_eq_ok_iff, Int.not_lt]
  constructor
  · rintro ⟨n, same, least, rfl⟩
    exact ⟨same, least⟩
  · rintro ⟨same, least⟩
    exact ⟨n, same, least, rfl⟩

theorem port_eq_ok_iff {n : Int} :
    port path x = .ok n ↔ whole path x = .ok n ∧ 1 ≤ n ∧ n ≤ 65535 := by
  simp only [port, bind_eq_ok_iff, kept_eq_ok_iff, positive_eq_ok_iff, gt_iff_lt, Int.not_lt]
  constructor
  · rintro ⟨n, ⟨same, least⟩, most, rfl⟩
    exact ⟨same, least, most⟩
  · rintro ⟨same, least, most⟩
    exact ⟨n, ⟨same, least⟩, most, rfl⟩

/-- Whole numbers are read as what they are, unless they are written as long fractions. -/
theorem whole_eq_ok_iff {n m : Int} (integral : x.IsWhole n) :
    whole path x = .ok m ↔ x.isLongFraction = false ∧ m = n := by
  obtain rfl | ⟨number, rfl, same⟩ := integral
  · simp [whole, Json.isLongFraction, eq_comm]
  · have finite := Binary64.isFinite_of_toInt? same
    simp only [whole, wholeOfNumber, finite, same, Json.isLongFraction]
    by_cases short : n.natAbs < 9223372036854775808
    · simp [short, Except.mapError, eq_comm]
    · simp [short, Except.mapError, Nat.le_of_not_lt short]

end Checked

namespace Spec

/-- What a record reads as. -/
theorem ofJson_eq_ok_iff {fields : Fields} {spec : Spec} : ofJson (.obj fields) = .ok spec ↔
    Checked.field fields ["image"] Checked.nonEmptyText none = .ok spec.image ∧
    Checked.field fields ["replicas"] Checked.positive (some 1) = .ok spec.replicas ∧
    Checked.field fields ["containerPort", "container_port"] Checked.port none =
      .ok spec.containerPort ∧
    Checked.field fields ["servicePort", "service_port"] Checked.whole (some 80) =
      .ok spec.servicePort := by
  simp only [ofJson, check, Checked.model, Checked.orFault_eq_ok_iff, bind_eq_ok_iff,
    Checked.both_eq_ok_iff, Prod.exists, pure, Except.pure, Except.ok.injEq]
  constructor
  · rintro ⟨image, replicas, containerPort, servicePort, reads, rfl⟩
    exact reads
  · intro reads
    exact ⟨_, _, _, _, reads, rfl⟩

/-- A number is what a record states under a name, or the default where it states none. -/
def StatedOr (fields : Fields) (name : String) (default n : Int) : Prop :=
  match Fields.get? fields name with
  | some x => x.isNumber n = true
  | none => n = default

/-- The service port of a record: what it states under the wire name, else what reads as
a whole number under the port's own name, else 80. -/
def StatesServicePort (fields : Fields) (n : Int) : Prop :=
  match Fields.get? fields "servicePort", Fields.get? fields "service_port" with
  | none, some x => Checked.whole ["service_port"] x = .ok n
  | _, _ => StatedOr fields "servicePort" 80 n

/-- A record states no long fraction under a name. -/
def WordSized (fields : Fields) (name : String) : Prop :=
  ∀ x, Fields.get? fields name = some x → x.isLongFraction = false

section Stated

variable {fields : Fields} {name : String} {default n : Int} {x : Json}

theorem statedOr_of_present (found : Fields.get? fields name = some x) :
    StatedOr fields name default n ↔ x.isNumber n = true := by
  rw [StatedOr, found]

theorem statedOr_of_absent (absent : Fields.get? fields name = none) :
    StatedOr fields name default n ↔ n = default := by
  rw [StatedOr, absent]

/-- Where only whole numbers are stated, some number is, or the default stands for it. -/
theorem exists_statedOr (default : Int)
    (whole : ∀ x, Fields.get? fields name = some x → ∃ n, x.IsWhole n) :
    ∃ n, StatedOr fields name default n := by
  cases found : Fields.get? fields name with
  | none => exact ⟨default, (statedOr_of_absent found).mpr rfl⟩
  | some x =>
      obtain ⟨n, whole⟩ := whole x found
      exact ⟨n, (statedOr_of_present found).mpr (whole.isNumber_iff.mpr rfl)⟩

theorem wordSized_of_present (found : Fields.get? fields name = some x) :
    WordSized fields name ↔ x.isLongFraction = false := by
  simp [WordSized, found]

theorem wordSized_of_absent (absent : Fields.get? fields name = none) : WordSized fields name := by
  simp [WordSized, absent]

end Stated

namespace Accepted

variable {fields : Fields}

theorem image_iff (accepted : Accepted fields) {s : String} :
    Checked.field fields ["image"] Checked.nonEmptyText none = .ok s ↔
      Fields.get? fields "image" = some (.str s) := by
  obtain ⟨x, found, text, rfl, nonempty⟩ := accepted.image
  rw [Checked.field_of_present found, Checked.nonEmptyText_eq_ok_iff, found, Option.some.injEq,
    Json.str.injEq]
  constructor
  · exact And.left
  · rintro rfl
    exact ⟨rfl, nonempty⟩

theorem replicas_iff (accepted : Accepted fields) {n : Int} :
    Checked.field fields ["replicas"] Checked.positive (some 1) = .ok n ↔
      WordSized fields "replicas" ∧ StatedOr fields "replicas" 1 n := by
  cases found : Fields.get? fields "replicas" with
  | none =>
      rw [Checked.field_of_absent found, Checked.field_nil, Except.ok.injEq,
        statedOr_of_absent found, and_iff_right (wordSized_of_absent found), eq_comm]
  | some x =>
      obtain ⟨m, whole, least⟩ := accepted.replicas x found
      rw [Checked.field_of_present found, Checked.positive_eq_ok_iff,
        Checked.whole_eq_ok_iff whole, wordSized_of_present found, statedOr_of_present found,
        whole.isNumber_iff]
      constructor
      · exact And.left
      · rintro ⟨short, rfl⟩
        exact ⟨⟨short, rfl⟩, least⟩

theorem containerPort_iff (accepted : Accepted fields) {n : Int} :
    Checked.field fields ["containerPort", "container_port"] Checked.port none = .ok n ↔
      ∃ x, Fields.get? fields "containerPort" = some x ∧ x.isNumber n = true := by
  obtain ⟨x, found, m, whole, least, most⟩ := accepted.containerPort
  have short := whole.not_isLongFraction (by omega)
  rw [Checked.field_of_present found, Checked.port_eq_ok_iff, Checked.whole_eq_ok_iff whole]
  simp only [found, Option.some.injEq, exists_eq_left', whole.isNumber_iff, short, true_and]
  constructor
  · exact And.left
  · rintro rfl
    exact ⟨rfl, least, most⟩

theorem servicePort_iff (accepted : Accepted fields) {n : Int} :
    Checked.field fields ["servicePort", "service_port"] Checked.whole (some 80) = .ok n ↔
      WordSized fields "servicePort" ∧ StatesServicePort fields n := by
  rw [StatesServicePort]
  cases found : Fields.get? fields "servicePort" with
  | none =>
      rw [Checked.field_of_absent found, and_iff_right (wordSized_of_absent found)]
      cases other : Fields.get? fields "service_port" with
      | none =>
          rw [Checked.field_of_absent other, Checked.field_nil, Except.ok.injEq]
          exact eq_comm.trans (statedOr_of_absent found).symm
      | some x => rw [Checked.field_of_present other]
  | some x =>
      obtain ⟨m, whole⟩ := accepted.servicePort x found
      rw [Checked.field_of_present found, Checked.whole_eq_ok_iff whole,
        wordSized_of_present found]
      exact and_congr_right fun _ =>
        whole.isNumber_iff.symm.trans (statedOr_of_present found).symm

theorem exists_servicePort (accepted : Accepted fields)
    (own : Fields.get? fields "servicePort" = none →
      ∀ x, Fields.get? fields "service_port" = some x →
        ∃ n, Checked.whole ["service_port"] x = .ok n) :
    ∃ n, StatesServicePort fields n := by
  simp only [StatesServicePort]
  split
  · next x absent other => exact own absent x other
  · exact exists_statedOr 80 accepted.servicePort

end Accepted

/-- A specification that the schema accepts is read exactly when its replicas and its
service port are no long fractions and, where a service port is given under its own name
alone, that reads as a whole number.  What is read is what the record states at its wire
names, one replica and port 80 where it states nothing; a service port that is given under
its own name alone is read from there. -/
theorem accepted_spec_is_read {fields : Fields}
    (accepted : Schema.spec.message? (Json.obj fields) = none) :
    ((∃ spec, ofJson (.obj fields) = .ok spec) ↔
      WordSized fields "replicas" ∧ WordSized fields "servicePort" ∧
      (Fields.get? fields "servicePort" = none →
        ∀ x, Fields.get? fields "service_port" = some x →
          ∃ n, Checked.whole ["service_port"] x = .ok n)) ∧
    ∀ spec, ofJson (.obj fields) = .ok spec →
      Fields.get? fields "image" = some (.str spec.image) ∧
      StatedOr fields "replicas" 1 spec.replicas ∧
      (∃ x, Fields.get? fields "containerPort" = some x ∧
        x.isNumber spec.containerPort = true) ∧
      StatesServicePort fields spec.servicePort := by
  have accepted := message?_eq_none_iff.mp accepted
  simp only [ofJson_eq_ok_iff, accepted.image_iff, accepted.replicas_iff,
    accepted.containerPort_iff, accepted.servicePort_iff]
  refine ⟨⟨?_, ?_⟩, ?_⟩
  · rintro ⟨spec, -, ⟨replicas, -⟩, -, ⟨servicePort, states⟩⟩
    refine ⟨replicas, servicePort, ?_⟩
    intro absent x other
    rw [StatesServicePort, absent, other] at states
    exact ⟨_, states⟩
  · rintro ⟨replicas, servicePort, own⟩
    obtain ⟨_, found, image, rfl, -⟩ := accepted.image
    obtain ⟨port, listed, number, whole, -⟩ := accepted.containerPort
    have wholeReplicas : ∀ x, Fields.get? fields "replicas" = some x → ∃ n, x.IsWhole n :=
      fun x found => (accepted.replicas x found).imp fun _ => And.left
    obtain ⟨count, counted⟩ := exists_statedOr 1 wholeReplicas
    obtain ⟨offered, states⟩ := accepted.exists_servicePort own
    exact ⟨⟨image, count, number, offered⟩, found, ⟨replicas, counted⟩,
      ⟨port, listed, whole.isNumber_iff.mpr rfl⟩, ⟨servicePort, states⟩⟩
  · rintro spec ⟨image, ⟨-, replicas⟩, containerPort, ⟨-, servicePort⟩⟩
    exact ⟨image, replicas, containerPort, servicePort⟩

/-- Replicas that are written with a fraction of zero, and no service port. -/
theorem accepted_spec_is_read_of_a_fraction :
    ∃ fields : Fields, Schema.spec.message? (Json.obj fields) = none ∧
      Fields.get? fields "replicas" = some (.float ⟨0x4008000000000000⟩) ∧
      (∃ spec, ofJson (.obj fields) = .ok spec) ∧
      ofJson (.obj fields) = .ok ⟨"nginx", 3, 8080, 80⟩ ∧
      Fields.get? fields "image" = some (.str "nginx") ∧ StatedOr fields "replicas" 1 3 ∧
      StatesServicePort fields 80 := by
  let fields : Fields := [("image", .str "nginx"), ("containerPort", .int 8080),
    ("replicas", .float ⟨0x4008000000000000⟩), ("note", .null)]
  have accepted : Schema.spec.message? (Json.obj fields) = none :=
    Schema.message?_eq_none_iff.mpr rfl
  obtain ⟨reads, values⟩ := accepted_spec_is_read accepted
  have read := reads.mpr ⟨(wordSized_of_present rfl).mpr rfl, wordSized_of_absent rfl,
    fun _ _ other => by cases other⟩
  obtain ⟨image, replicas, -, servicePort⟩ := values ⟨"nginx", 3, 8080, 80⟩ rfl
  exact ⟨fields, accepted, rfl, read, rfl, image, replicas, servicePort⟩

/-- The schema does not see a service port under its own name, and it does not mind how
long a fraction is. -/
theorem schema_overlooks_own_name_and_long_fraction :
    (∃ fields : Fields, Schema.spec.message? (Json.obj fields) = none ∧
      Fields.get? fields "servicePort" = none ∧
      ofJson (.obj fields) = .ok ⟨"nginx", 1, 8080, 81⟩) ∧
    ∃ fields : Fields, Schema.spec.message? (Json.obj fields) = none ∧
      ∀ spec, ofJson (.obj fields) ≠ .ok spec := by
  constructor
  · refine ⟨[("image", .str "nginx"), ("containerPort", .int 8080), ("service_port", .int 81)],
      Schema.message?_eq_none_iff.mpr rfl, rfl, rfl⟩
  · refine ⟨[("image", .str "nginx"), ("containerPort", .int 8080),
      ("replicas", .float ⟨0x4415AF1D78B58C40⟩)], Schema.message?_eq_none_iff.mpr rfl, ?_⟩
    intro spec read
    cases read

end Spec

end AppOperator
