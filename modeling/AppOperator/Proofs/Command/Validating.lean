import AppOperator.Command.Run
import AppOperator.Proofs.Json.Editing
import AppOperator.Proofs.Schema.Reports

/-!
# Validating a document

A document that is rejected is reported line by line on the error output.  The lines are the parts
of the message, not the errors that the message was joined from: an error is one line unless the
value that it shows has a semicolon with a blank behind it.
-/

set_option autoImplicit false

namespace AppOperator

namespace Text

/-- A text in which nothing matches is left as it is. -/
theorem replaceMatches_eq_self {match? : List Char → Option (Nat × List Char)} {cs : List Char}
    (none : ∀ c ∈ cs, ∀ rest, match? (c :: rest) = none) : replaceMatches match? 0 cs = cs := by
  induction cs with
  | nil => rfl
  | cons c rest ih =>
      obtain ⟨first, others⟩ := List.forall_mem_cons.mp none
      rw [replaceMatches, first rest]
      exact congrArg (c :: ·) (ih others)

/-- A style starts with the escape character. -/
theorem styleWidth?_eq_none {c : Char} (other : c ≠ escape) (rest : List Char) :
    styleWidth? (c :: rest) = none := by
  unfold styleWidth?
  split
  · next started =>
      obtain ⟨rfl, -⟩ := List.cons.inj started
      dsimp only
      split
      · rw [beq_false_of_ne other, Bool.false_and, if_neg Bool.false_ne_true]
      · rfl
  · rfl

theorem withoutStyles_eq_self {s : String} (noEscape : Consists (· != escape) s) :
    withoutStyles s = s := by
  rw [withoutStyles, replaceMatches_eq_self, String.ofList_toList]
  intro c among rest
  rw [styleWidth?_eq_none (bne_iff_ne.mp (noEscape c among)) rest, Option.map_none]

theorem ne_of_isPrintable {c d : Char} (printable : isPrintable c = true)
    (control : isPrintable d = false) : c ≠ d := by
  rintro rfl
  rw [printable] at control
  cases control

end Text

namespace Command

/-- The errors of a document, each with its path and its message. -/
def Loaded.errors : Loaded → List String
  | .json document => Schema.declaration.report document
  | .yaml document => Schema.declaration.report (⟨document, document.root⟩ : Yaml.Focus)

/-- The values that the errors of a document are about, as they are shown. -/
def Loaded.shownValues : Loaded → List String
  | .json document => Schema.shownValues Schema.declaration document
  | .yaml document => Schema.shownValues Schema.declaration (⟨document, document.root⟩ : Yaml.Focus)

variable {loaded : Loaded} {message : String}

theorem Loaded.message_eq (rejects : loaded.message? = .ok (some message)) :
    loaded.errors ≠ [] ∧ message = "; ".intercalate loaded.errors := by
  cases loaded with
  | json document => exact Schema.message?_eq_some_iff.mp (Except.ok.inj rejects)
  | yaml document =>
      obtain ⟨_, -, same⟩ := bind_eq_ok_iff.mp rejects
      exact Schema.message?_eq_some_iff.mp (Except.ok.inj same)

/-- The lines that a document is reported with. -/
def Loaded.lines (loaded : Loaded) : List String :=
  loaded.errors.flatMap Schema.messageParts

theorem Loaded.printed_of_mem_lines : ∀ line ∈ loaded.lines, Text.IsPrinted line := by
  cases loaded with
  | json document =>
      exact Schema.printed_of_mem_flatMap Schema.declaration_words Json.isShown_shown
  | yaml document =>
      exact Schema.printed_of_mem_flatMap Schema.declaration_words
        fun focus : Yaml.Focus => focus.document.isShown_shown focus.value

theorem Loaded.lines_eq_errors_iff :
    loaded.lines = loaded.errors ↔ ∀ value ∈ loaded.shownValues, ¬ Schema.HasSeparator value := by
  cases loaded with
  | json document =>
      exact Schema.flatMap_report_eq_iff Schema.declaration_words Json.isShown_shown
  | yaml document =>
      exact Schema.flatMap_report_eq_iff Schema.declaration_words
        fun focus : Yaml.Focus => focus.document.isShown_shown focus.value

/-- Printed lines are written as they are, each with a line break behind it. -/
theorem withoutStyles_lines {lines : List String} (printed : ∀ line ∈ lines, Text.IsPrinted line) :
    Text.withoutStyles (String.join (lines.map fun line => "  - " ++ line ++ "\n")) =
      String.join (lines.map fun line => "  - " ++ line ++ "\n") := by
  refine Text.withoutStyles_eq_self (.join (List.forall_mem_map.mpr ?_))
  intro line isLine
  have own : Text.Consists (· != Text.escape) line :=
    (printed line isLine).mono fun c printable =>
      bne_iff_ne.mpr (Text.ne_of_isPrintable printable rfl)
  exact .append (.append (by decide) own) (by decide)

theorem runValidate_eq (rejects : loaded.message? = .ok (some message)) (file : String)
    (console : Console) : runValidate file loaded console = .done (.error (.exit 1),
      { console with err := console.err ++ Text.withoutStyles (file ++ " is invalid:\n") ++
          Text.withoutStyles (String.join
            ((Schema.messageParts message).map fun part => "  - " ++ part ++ "\n")) }) := by
  simp only [runValidate, rejects]
  rfl

/-- A document that is rejected ends the command with code 1.  On the error output it leaves a
headline and one line for every part of the message, whole and without a break, and nothing of the
message is lost.  These are the errors of the document, line by line and in order, exactly if none of
the values that the errors show has a semicolon with a blank behind it. -/
theorem rejection_is_printed_part_by_part (rejects : loaded.message? = .ok (some message))
    (file : String) (console : Console) :
    runValidate file loaded console = .done (.error (.exit 1),
      { console with err := console.err ++ Text.withoutStyles (file ++ " is invalid:\n") ++
          String.join (loaded.lines.map fun line => "  - " ++ line ++ "\n") }) ∧
      (∀ line ∈ loaded.lines, '\n' ∉ line.toList) ∧
      message = "; ".intercalate loaded.errors ∧ message = "; ".intercalate loaded.lines ∧
      (loaded.lines = loaded.errors ↔
        ∀ value ∈ loaded.shownValues, ¬ Schema.HasSeparator value) := by
  obtain ⟨some_, joined⟩ := Loaded.message_eq rejects
  have taken : Schema.messageParts message = loaded.lines := by
    rw [joined, Schema.messageParts_intercalate some_]
    rfl
  refine ⟨?_, ?_, joined, ?_, Loaded.lines_eq_errors_iff⟩
  · rw [runValidate_eq rejects, taken, withoutStyles_lines Loaded.printed_of_mem_lines]
  · intro line isLine broken
    exact Text.ne_of_isPrintable (Loaded.printed_of_mem_lines line isLine _ broken) rfl rfl
  · rw [← taken, Schema.intercalate_messageParts]

/-- A declaration that is in order apart from its name. -/
def namedSample (name : String) : Json :=
  .obj [("apiVersion", .str "apps.myapp.io/v1"), ("kind", .str "SimpleApp"),
    ("metadata", .obj [("name", .str name)]),
    ("spec", .obj [("image", .str "nginx:1"), ("containerPort", .int 8080)])]

/-- One violation needs no sorting. -/
theorem errors_eq_singleton {x : Json} {line : String}
    (single : (schemaViolations [] x Schema.declaration).map Violation.text = [line]) :
    (Loaded.json x).errors = [line] ∧ (Loaded.json x).message? = .ok (some line) := by
  have errors : Schema.declaration.report x = [line] := by
    obtain ⟨v, isViolation, isLine⟩ := List.map_eq_singleton_iff.mp single
    rw [Schema.report, Schema.violations, isViolation, List.mergeSort_singleton, List.map_singleton,
      isLine]
  refine ⟨errors, ?_⟩
  rw [Loaded.message?, Schema.message?_eq_some_iff.mpr ⟨?_, rfl⟩, errors, String.intercalate_singleton]
  rw [errors]
  exact List.cons_ne_nil _ _

/-- A semicolon without a blank behind it leaves an error on one line. -/
theorem rejection_is_printed_part_by_part_of_a_bare_semicolon :
    let loaded := Loaded.json (namedSample "a;b")
    let line := "metadata.name: 'a;b' does not match '^[a-z0-9]([-a-z0-9]*[a-z0-9])?$'"
    loaded.errors = [line] ∧ loaded.message? = .ok (some line) ∧
      runValidate "app.json" loaded ⟨[], "", ""⟩ = .done (.error (.exit 1),
        ⟨[], "", "app.json is invalid:\n  - " ++ line ++ "\n"⟩) := by
  intro loaded line
  obtain ⟨errors, rejects⟩ : loaded.errors = [line] ∧ loaded.message? = .ok (some line) :=
    errors_eq_singleton (by decide +kernel)
  refine ⟨errors, rejects, ?_⟩
  obtain ⟨runs, -⟩ := rejection_is_printed_part_by_part rejects "app.json" ⟨[], "", ""⟩
  have lines : loaded.lines = [line] := by
    rw [Loaded.lines, errors]
    decide +kernel
  rw [runs, lines]
  refine congrArg (fun err => Dialogue.done (Except.error (Ending.exit 1), Console.mk [] "" err)) ?_
  decide +kernel

/-- With a blank behind it the error is cut in two. -/
theorem error_with_separator_is_cut :
    let loaded := Loaded.json (namedSample "a; b")
    loaded.errors =
        ["metadata.name: 'a; b' does not match '^[a-z0-9]([-a-z0-9]*[a-z0-9])?$'"] ∧
      runValidate "app.json" loaded ⟨[], "", ""⟩ = .done (.error (.exit 1), ⟨[], "",
        "app.json is invalid:\n  - metadata.name: 'a\n" ++
          "  - b' does not match '^[a-z0-9]([-a-z0-9]*[a-z0-9])?$'\n"⟩) := by
  intro loaded
  obtain ⟨errors, rejects⟩ : loaded.errors =
        ["metadata.name: 'a; b' does not match '^[a-z0-9]([-a-z0-9]*[a-z0-9])?$'"] ∧ _ :=
    errors_eq_singleton (by decide +kernel)
  refine ⟨errors, ?_⟩
  rw [runValidate_eq rejects]
  refine congrArg (fun err => Dialogue.done (Except.error (Ending.exit 1), Console.mk [] "" err)) ?_
  decide +kernel

end Command

end AppOperator
