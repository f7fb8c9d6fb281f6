import AppOperator.Declaration
import AppOperator.Text.Pattern

/-!
# The schema of declarations

A schema is a list of rules in the order in which they are checked.  Checking a
document gives all violations in that order; a report lists them by path.  A
rule that does not speak about a kind of document is not broken by it.

Documents of any form can be checked that have an `Aspect`: they are records,
texts or numbers for the rules, and all else is the same to them.

Names are searched for a pattern (`Text.Pattern.label`).
-/

set_option autoImplicit false

namespace AppOperator

/-- What a schema sees of a document. -/
inductive Aspect (δ : Type) where
  | record (get? : String → Option δ)
  | text (text : String)
  | whole (value : Int)
  | fraction (value : Binary64)
  | other

/-- Documents that a schema can check, and that messages can show. -/
class Checkable (δ : Type) where
  aspect : δ → Aspect δ
  shown : δ → String

def Json.aspect : Json → Aspect Json
  | .obj fields => .record (Fields.get? fields)
  | .str s => .text s
  | .int n => .whole n
  | .float x => .fraction x
  | _ => .other

instance : Checkable Json := ⟨Json.aspect, Json.shown⟩

/-- The kinds of values a schema tells apart. -/
inductive SchemaType where
  | object
  | string
  | integer
deriving DecidableEq, Repr

def SchemaType.name : SchemaType → String
  | .object => "object"
  | .string => "string"
  | .integer => "integer"

def SchemaType.admits {δ : Type} : SchemaType → Aspect δ → Bool
  | .object, .record _ => true
  | .string, .text _ => true
  | .integer, .whole _ => true
  | .integer, .fraction x => x.isIntegral
  | _, _ => false

namespace Text.Pattern

/-- A small letter or a digit, at either end of a name. -/
def labelEdge : Pattern :=
  .oneOf [('a', 'z'), ('0', '9')]

/-- A character inside of a name. -/
def labelInner : Pattern :=
  .oneOf [('-', '-'), ('a', 'z'), ('0', '9')]

/-- The names of declarations. -/
def label : Pattern :=
  .seq .start (.seq labelEdge
    (.seq (.optional (.seq (.many labelInner) labelEdge)) .finish))

example : label.text = "^[a-z0-9]([-a-z0-9]*[a-z0-9])?$" := by decide +kernel

end Text.Pattern

inductive Rule where
  | type (expected : SchemaType)
  | required (names : List String)
  | properties (schemas : List (String × List Rule))
  | const (expected : String)
  | minLength (length : Nat)
  | maxLength (length : Nat)
  | pattern (pattern : Text.Pattern)
  | minimum (bound : Int)
  | maximum (bound : Int)

abbrev Schema := List Rule

/-- A broken rule: where, and what is wrong. -/
structure Violation (δ : Type) where
  path : List String
  /-- the document that the message shows, if it shows one -/
  subject : Option δ
  message : String

namespace Violation

variable {δ : Type}

/-- One line of a report. -/
def text (v : Violation δ) : String :=
  (if v.path.isEmpty then "(root)" else ".".intercalate v.path) ++ ": " ++ v.message

/-- The order of reports, by path. -/
def notAfter (v w : Violation δ) : Bool :=
  !(w.path < v.path)

end Violation

namespace Aspect

variable {δ : Type}

def isBelow (x : Aspect δ) (bound : Int) : Bool :=
  match x with
  | .whole n => n < bound
  | .fraction y => y.ltInt bound
  | _ => false

def isAbove (x : Aspect δ) (bound : Int) : Bool :=
  match x with
  | .whole n => n > bound
  | .fraction y => y.gtInt bound
  | _ => false

def isText (x : Aspect δ) (s : String) : Bool :=
  match x with
  | .text own => own == s
  | _ => false

def textHas (x : Aspect δ) (property : List Char → Bool) : Bool :=
  match x with
  | .text s => property s.toList
  | _ => false

/-- The value of a field, if the document is a record that has it. -/
def field? (x : Aspect δ) (name : String) : Option δ :=
  match x with
  | .record get? => get? name
  | _ => none

def lacks (x : Aspect δ) (name : String) : Bool :=
  match x with
  | .record get? => (get? name).isNone
  | _ => false

end Aspect

/-- A violation where a rule is broken; the message is not formed elsewhere. -/
@[macro_inline]
def violatedIf {δ : Type} (broken : Bool) (path : List String) (subject : Option δ)
    (message : String) : List (Violation δ) :=
  if broken then [⟨path, subject, message⟩] else []

section Violations

variable {δ : Type} [Checkable δ]

open Checkable

mutual

/-- The violations of one rule by a document at a path. -/
def Rule.violations (path : List String) (x : δ) : Rule → List (Violation δ)
  | .type expected =>
      violatedIf (!expected.admits (aspect x)) path x
        (shown x ++ " is not of type '" ++ expected.name ++ "'")
  | .required names =>
      names.flatMap fun name =>
        violatedIf ((aspect x).lacks name) path none (Text.quoted name ++ " is a required property")
  | .properties schemas => propertyViolations path x schemas
  | .const expected =>
      violatedIf (!(aspect x).isText expected) path none (Text.quoted expected ++ " was expected")
  | .minLength length =>
      violatedIf ((aspect x).textHas fun cs => cs.length < length) path x
        (shown x ++ " should be non-empty")
  | .maxLength length =>
      violatedIf ((aspect x).textHas fun cs => cs.length > length) path x
        (shown x ++ " is too long")
  | .pattern pattern =>
      violatedIf ((aspect x).textHas fun cs => !pattern.isFoundIn cs) path x
        (shown x ++ " does not match " ++ Text.quoted pattern.text)
  | .minimum bound =>
      violatedIf ((aspect x).isBelow bound) path x
        (shown x ++ " is less than the minimum of " ++ Decimal.intText bound)
  | .maximum bound =>
      violatedIf ((aspect x).isAbove bound) path x
        (shown x ++ " is greater than the maximum of " ++ Decimal.intText bound)

/-- The violations of the fields that are there. -/
def propertyViolations (path : List String) (x : δ) : List (String × List Rule) → List (Violation δ)
  | [] => []
  | (name, schema) :: rest =>
      (match (aspect x).field? name with
        | some value => schemaViolations (path ++ [name]) value schema
        | none => [])
      ++ propertyViolations path x rest

def schemaViolations (path : List String) (x : δ) : List Rule → List (Violation δ)
  | [] => []
  | rule :: rest => Rule.violations path x rule ++ schemaViolations path x rest

end

end Violations

namespace Schema

/-- The wanted shape of an application. -/
def spec : Schema :=
  [.type .object, .required ["image", "containerPort"],
    .properties
      [("image", [.type .string, .minLength 1]),
        ("replicas", [.type .integer, .minimum 1]),
        ("containerPort", [.type .integer, .minimum 1, .maximum 65535]),
        ("servicePort", [.type .integer])]]

/-- The observed state of an application. -/
def status : Schema :=
  [.type .object,
    .properties
      [("readyReplicas", [.type .integer]), ("serviceStatus", [.type .string])]]

/-- The identity of an application. -/
def metadata : Schema :=
  [.type .object, .required ["name"],
    .properties
      [("name", [.type .string, .pattern .label, .maxLength 63]), ("namespace", [.type .string])]]

def declaration : Schema :=
  [.type .object, .required ["apiVersion", "kind", "metadata", "spec"],
    .properties
      [("apiVersion", [.type .string, .const apiVersion]),
        ("kind", [.type .string, .const declarationKind]),
        ("metadata", metadata), ("spec", spec), ("status", status)]]

variable {δ : Type} [Checkable δ]

/-- All violations of a document, ordered by path; those of one path stay in the
order of the rules. -/
def violations (schema : Schema) (x : δ) : List (Violation δ) :=
  (schemaViolations [] x schema).mergeSort Violation.notAfter

/-- The lines of the report on a document; none when it is valid. -/
def report (schema : Schema) (x : δ) : List String :=
  (schema.violations x).map Violation.text

/-- The report as one text, if there is anything to report. -/
def message? (schema : Schema) (x : δ) : Option String :=
  let lines := schema.report x
  if lines.isEmpty then none else some ("; ".intercalate lines)

/-- The parts of a text between semicolons with a blank behind them. -/
def parts : List Char → List (List Char)
  | [] => [[]]
  | ';' :: ' ' :: rest => [] :: parts rest
  | c :: rest =>
      match parts rest with
      | [] => [[c]]
      | part :: others => (c :: part) :: others

/-- The parts of a report that was made one text. -/
def messageParts (message : String) : List String :=
  (parts message.toList).map String.ofList

end Schema

end AppOperator
