import AppOperator.Json.Reader
import AppOperator.Json.Writer
import AppOperator.Text.Blank
import AppOperator.Yaml.Cause

/-!
# What can go wrong

Every operation that can fail says why in one of these values.  A fault is a
cause; its wording is in `Fault.message`, and nothing else depends on the
wording.  Failures of the API server (`ApiError`) and resources that do not fit
their model (`Invalid`) end a reconciliation pass in good order; all others are
unexpected there.
-/

set_option autoImplicit false

namespace AppOperator

/-- The kinds of values, as faults name them; the last four stand in no document of the
cluster. -/
inductive Shape where
  | null
  | truth
  | whole
  | fraction
  | text
  | list
  | record
  | day
  | moment
  | octets
  | set
deriving DecidableEq, Repr

def Shape.name : Shape → String
  | .null => "NoneType"
  | .truth => "bool"
  | .whole => "int"
  | .fraction => "float"
  | .text => "str"
  | .list => "list"
  | .record => "dict"
  | .day => "datetime.date"
  | .moment => "datetime.datetime"
  | .octets => "bytes"
  | .set => "set"

def Json.shape : Json → Shape
  | .null => .null
  | .bool _ => .truth
  | .int _ => .whole
  | .float _ => .fraction
  | .str _ => .text
  | .arr _ => .list
  | .obj _ => .record

/-- A request that the API server answered with an error, or that did not reach
it.  An error object may hold any document where a status, a reason and a
message are expected. -/
structure ApiError where
  notFound : Bool
  status : Json
  reason : Json
  message : Json
deriving DecidableEq, Inhabited

namespace ApiError

def general (status : Json) (reason message : String) : ApiError :=
  ⟨false, status, .str reason, .str message⟩

/-- The requested object does not exist. -/
def missing (message : String) : ApiError :=
  ⟨true, .int 404, .str "NotFound", .str message⟩

/-- Status, reason and message on one line. -/
def text (e : ApiError) : String :=
  Text.trim ("API error " ++ e.status.spoken ++ " " ++ e.reason.spoken ++ ": " ++ e.message.spoken)

end ApiError

/-- What is wrong with one field of a resource. -/
inductive FieldCause where
  | missing
  | notText
  | emptyText
  | notWhole
  | fractional
  | unreadableWhole
  | longWhole
  | notFinite
  | belowOne
  | abovePorts
  | notModel (model : String)
  | notRecord
deriving DecidableEq, Repr

def FieldCause.label : FieldCause → String
  | .missing => "missing"
  | .notText => "string_type"
  | .emptyText => "string_too_short"
  | .notWhole => "int_type"
  | .fractional => "int_from_float"
  | .unreadableWhole => "int_parsing"
  | .longWhole => "int_parsing_size"
  | .notFinite => "finite_number"
  | .belowOne => "greater_than_equal"
  | .abovePorts => "less_than_equal"
  | .notModel _ => "model_type"
  | .notRecord => "dict_type"

def FieldCause.message : FieldCause → String
  | .missing => "Field required"
  | .notText => "Input should be a valid string"
  | .emptyText => "String should have at least 1 character"
  | .notWhole => "Input should be a valid integer"
  | .fractional => "Input should be a valid integer, got a number with a fractional part"
  | .unreadableWhole => "Input should be a valid integer, unable to parse string as an integer"
  | .longWhole => "Unable to parse input string as an integer, exceeded maximum size"
  | .notFinite => "Input should be a finite number"
  | .belowOne => "Input should be greater than or equal to 1"
  | .abovePorts => "Input should be less than or equal to 65535"
  | .notModel model => "Input should be a valid dictionary or instance of " ++ model
  | .notRecord => "Input should be a valid dictionary"

/-- A cause and the names of the fields that lead to it. -/
structure FieldError where
  path : List String
  cause : FieldCause
deriving DecidableEq, Repr

def FieldError.lines (e : FieldError) : List String :=
  let detail := "  " ++ e.cause.message ++ " [type=" ++ e.cause.label ++ "]"
  if e.path.isEmpty then [detail] else [".".intercalate e.path, detail]

/-- A document that does not fit a model, with all that is wrong with it. -/
structure Invalid where
  model : String
  errors : List FieldError
deriving DecidableEq, Repr

def Invalid.text (e : Invalid) : String :=
  let count := e.errors.length
  let heading := Decimal.natText count ++ " validation error" ++ (if count == 1 then "" else "s")
    ++ " for " ++ e.model
  "\n".intercalate (heading :: e.errors.flatMap FieldError.lines)

inductive Fault where
  /-- the API server refused, or was not reached -/
  | api (error : ApiError)
  /-- a resource does not fit its model -/
  | invalid (error : Invalid)
  /-- a record lacks a field -/
  | missingField (name : String)
  /-- a record was asked for a numbered entry -/
  | missingEntry (index : Nat)
  /-- a document without named parts was asked for one -/
  | noPart (shape : Shape) (part : String)
  /-- a document was asked for a named entry that its kind does not have -/
  | noNamedEntry (shape : Shape)
  /-- a document was asked for a numbered entry that its kind does not have -/
  | noNumberedEntry (shape : Shape)
  /-- a list is too short -/
  | outOfRange (shape : Shape)
  /-- an entry cannot be written into a document of this kind -/
  | noAssignment (shape : Shape)
  /-- a document of this kind cannot be part of a key -/
  | noKey (shape : Shape)
  /-- a value of this kind stands where a text is expected -/
  | noText (shape : Shape)
  /-- a value of this kind cannot be sent -/
  | unsendable (shape : Shape)
  /-- a value that holds itself cannot be sent -/
  | endless
  /-- collections are nested too deeply -/
  | tooDeep
  /-- a text is not a document -/
  | unreadable (error : Json.ReadError) (text : List Char)
  /-- a text is not a YAML document -/
  | unreadableYaml (cause : Yaml.Cause)
  /-- bytes that encode no text -/
  | undecodable
  /-- a value outside its range -/
  | badValue (text : String)
  /-- a whole number beyond every number with a fraction -/
  | tooLarge
  /-- a size beyond every size -/
  | tooLong
  /-- a failure of the environment, in its own words -/
  | failure (text : String)
  /-- a failure of the operating system, in its own words -/
  | system (text : String)
  /-- a file that does not exist -/
  | noFile
  /-- a directory where a file was expected -/
  | directory
  /-- a name that is not one of the arguments, or an argument without a value -/
  | wrongCall
  /-- the work queue has been shut down -/
  | shutDown
deriving Inhabited

def Fault.message : Fault → String
  | .api e => e.text
  | .invalid e => e.text
  | .missingField name => Text.quoted name
  | .missingEntry index => Decimal.natText index
  | .noPart shape part => "'" ++ shape.name ++ "' object has no attribute '" ++ part ++ "'"
  | .noNamedEntry .list => "list indices must be integers or slices, not str"
  | .noNamedEntry .text => "string indices must be integers, not 'str'"
  | .noNamedEntry shape => "'" ++ shape.name ++ "' object is not subscriptable"
  | .noNumberedEntry shape => "'" ++ shape.name ++ "' object is not subscriptable"
  | .outOfRange .text => "string index out of range"
  | .outOfRange _ => "list index out of range"
  | .noAssignment .list => "list indices must be integers or slices, not str"
  | .noAssignment shape => "'" ++ shape.name ++ "' object does not support item assignment"
  | .noKey shape => "unhashable type: '" ++ shape.name ++ "'"
  | .noText shape => "expected string or bytes-like object, got '" ++ shape.name ++ "'"
  | .unsendable shape => "Object of type " ++ shape.name ++ " is not JSON serializable"
  | .endless => "Circular reference detected"
  | .tooDeep => ""
  | .unreadable e text => e.message text
  | .unreadableYaml _ => ""
  | .undecodable => ""
  | .badValue text => text
  | .tooLarge => "int too large to convert to float"
  | .tooLong => ""
  | .failure text => text
  | .system text => text
  | .noFile => ""
  | .directory => ""
  | .wrongCall => ""
  | .shutDown => ""

/-- Why a text holds no document. -/
def Fault.ofRead (error : Json.ReadError) (text : List Char) : Fault :=
  if error.isTooDeep then .tooDeep else .unreadable error text

def Fault.isNotFound : Fault → Bool
  | .api e => e.notFound
  | _ => false

/-- The fault ends a reconciliation pass in good order. -/
def Fault.endsPass : Fault → Bool
  | .api _ => true
  | .invalid _ => true
  | _ => false

namespace Json

/-- The value of a field of a record, or the given default. -/
def fieldOr (x : Json) (name : String) (default : Json) : Except Fault Json :=
  match x with
  | .obj fields => .ok ((Fields.get? fields name).getD default)
  | other => .error (.noPart other.shape "get")

/-- The value of a field of a record, which must be there. -/
def entry (x : Json) (name : String) : Except Fault Json :=
  match x with
  | .obj fields =>
      match Fields.get? fields name with
      | some value => .ok value
      | none => .error (.missingField name)
  | other => .error (.noNamedEntry other.shape)

/-- The first item of a list or the first character of a text. -/
def first (x : Json) : Except Fault Json :=
  match x with
  | .arr (item :: _) => .ok item
  | .arr [] => .error (.outOfRange .list)
  | .str s =>
      match s.toList with
      | c :: _ => .ok (.str (String.singleton c))
      | [] => .error (.outOfRange .text)
  | .obj _ => .error (.missingEntry 0)
  | other => .error (.noNumberedEntry other.shape)

/-- The document, or the default where it does not hold. -/
def orElse (x default : Json) : Json :=
  if x.holds then x else default

/-- A document that can be part of a key. -/
def asKey (x : Json) : Except Fault Json :=
  match x with
  | .arr _ => .error (.noKey .list)
  | .obj _ => .error (.noKey .record)
  | other => .ok other

end Json

end AppOperator
