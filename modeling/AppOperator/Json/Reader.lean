import AppOperator.Json.Basic
import AppOperator.Text.Digit

/-!
# Reading documents

A reader of the interchange format over the characters of a text.  It accepts
the three words for numbers that are not finite, and it says of an unreadable
text what was expected and where.  The reader consumes the list it recurses on;
the position counts the characters before the rest.
-/

set_option autoImplicit false

namespace AppOperator.Json

/-- What is wrong with an unreadable text. -/
inductive ReadCause where
  | value
  | propertyName
  | colon
  | comma
  | extraData
  | unterminatedText
  | controlCharacter
  | escape
  | codeEscape
  | byteOrderMark
  /-- a whole number has more digits than are read -/
  | manyDigits (count : Nat)
  /-- lists and records are nested too deeply -/
  | tooDeep
deriving DecidableEq, Repr

/-- The most digits that a whole number may have where it is read or written to the
base ten. -/
def mostDigits : Nat := 4300

/-- How many lists and records may stand inside each other. -/
def mostNested : Nat := 980

/-- The wording for a whole number that has too many digits. -/
def manyDigitsText (count : Nat) : String :=
  "Exceeds the limit (4300 digits) for integer string conversion: value has " ++ toString count
    ++ " digits; use sys.set_int_max_str_digits() to increase the limit"

/-- The wording for a whole number that has too many digits to be written. -/
def longNumberText : String :=
  "Exceeds the limit (4300 digits) for integer string conversion; "
    ++ "use sys.set_int_max_str_digits() to increase the limit"

def ReadCause.message : ReadCause → String
  | .value => "Expecting value"
  | .propertyName => "Expecting property name enclosed in double quotes"
  | .colon => "Expecting ':' delimiter"
  | .comma => "Expecting ',' delimiter"
  | .extraData => "Extra data"
  | .unterminatedText => "Unterminated string starting at"
  | .controlCharacter => "Invalid control character at"
  | .escape => "Invalid \\escape"
  | .codeEscape => "Invalid \\uXXXX escape"
  | .byteOrderMark => "Unexpected UTF-8 BOM (decode using utf-8-sig)"
  | .manyDigits count => manyDigitsText count
  | .tooDeep => ""

/-- A cause and the number of characters before the place where it was found. -/
structure ReadError where
  cause : ReadCause
  position : Nat
deriving DecidableEq, Repr

/-- The text is well formed, but a limit keeps it from being read. -/
def ReadError.isLimit (e : ReadError) : Bool :=
  match e.cause with
  | .manyDigits _ => true
  | _ => false

/-- The text goes deeper than is read; whether it is well formed is not known. -/
def ReadError.isTooDeep (e : ReadError) : Bool :=
  e.cause == .tooDeep

/-- The wording of an error, with its line, column and position in its text, the
first two from one on.  A limit has no place. -/
def ReadError.message (e : ReadError) (text : List Char) : String :=
  if e.isLimit then e.cause.message else
  let before := text.take e.position
  let line := before.count '\n' + 1
  let column := (before.reverse.takeWhile (· != '\n')).length + 1
  e.cause.message ++ ": line " ++ toString line ++ " column " ++ toString column
    ++ " (char " ++ toString e.position ++ ")"

/-- The characters still to read and the number of those before them. -/
structure Cursor where
  rest : List Char
  position : Nat

namespace Cursor

def advance (c : Cursor) (n : Nat) : Cursor :=
  ⟨c.rest.drop n, c.position + n⟩

def isBlank (c : Char) : Bool :=
  c == ' ' || c == '\t' || c == '\n' || c == '\r'

def skipBlanks (c : Cursor) : Cursor :=
  let blanks := c.rest.takeWhile isBlank
  ⟨c.rest.dropWhile isBlank, c.position + blanks.length⟩

def fail {α : Type} (c : Cursor) (cause : ReadCause) : Except ReadError α :=
  .error ⟨cause, c.position⟩

end Cursor

def hexValue? (c : Char) : Option Nat :=
  if '0' ≤ c && c ≤ '9' then some (c.toNat - 48)
  else if 'a' ≤ c && c ≤ 'f' then some (c.toNat - 87)
  else if 'A' ≤ c && c ≤ 'F' then some (c.toNat - 55)
  else none

/-- The number written by the first four characters. -/
def fourHex? (cs : List Char) : Option Nat :=
  match cs with
  | a :: b :: c :: d :: _ => do
      let a ← hexValue? a
      let b ← hexValue? b
      let c ← hexValue? c
      let d ← hexValue? d
      return ((a * 16 + b) * 16 + c) * 16 + d
  | _ => none

def simpleEscape? (c : Char) : Option Char :=
  if c == '"' || c == '\\' || c == '/' then some c
  else if c == 'b' then some (Char.ofNat 8)
  else if c == 'f' then some (Char.ofNat 12)
  else if c == 'n' then some '\n'
  else if c == 'r' then some '\r'
  else if c == 't' then some '\t'
  else none

/-- The character of a code escape, and whether it used up a second escape; half
a pair has no character of its own and is replaced. -/
def codeEscape (n : Nat) (after : List Char) : Char × Bool :=
  if 0xD800 ≤ n && n < 0xDC00 then
    match after with
    | '\\' :: 'u' :: more =>
        match fourHex? more with
        | some low =>
            if 0xDC00 ≤ low && low < 0xE000 then
              (Char.ofNat (0x10000 + (n - 0xD800) * 0x400 + (low - 0xDC00)), true)
            else (Char.ofNat 0xFFFD, false)
        | none => (Char.ofNat 0xFFFD, false)
    | _ => (Char.ofNat 0xFFFD, false)
  else if 0xDC00 ≤ n && n < 0xE000 then (Char.ofNat 0xFFFD, false)
  else (Char.ofNat n, false)

/-- The characters of a text up to its closing quote; `start` is the position of
the opening one.  `fuel` bounds the characters read. -/
def readText (start : Nat) : (fuel : Nat) → Cursor → List Char → Except ReadError (String × Cursor)
  | 0, _, _ => .error ⟨.unterminatedText, start⟩
  | fuel + 1, c, read =>
      match c.rest with
      | [] => .error ⟨.unterminatedText, start⟩
      | '"' :: _ => .ok (String.ofList read.reverse, c.advance 1)
      | '\\' :: more =>
          match more with
          | [] => .error ⟨.unterminatedText, start⟩
          | 'u' :: digits =>
              if digits.length ≤ 4 then .error ⟨.codeEscape, c.position + 1⟩
              else
                match fourHex? digits with
                | none => .error ⟨.codeEscape, c.position + 1⟩
                | some n =>
                    let (char, paired) := codeEscape n (digits.drop 4)
                    readText start fuel (c.advance (if paired then 12 else 6)) (char :: read)
          | e :: _ =>
              match simpleEscape? e with
              | some char => readText start fuel (c.advance 2) (char :: read)
              | none => c.fail .escape
      | char :: _ =>
          if char.toNat < 0x20 then c.fail .controlCharacter
          else readText start fuel (c.advance 1) (char :: read)

def digitsValue (ds : List Char) : Nat :=
  ds.foldl (fun n c => n * 10 + (c.toNat - 48)) 0

/-- The longest number at the start of the characters, and how many it takes. -/
def readNumber? (cs : List Char) : Option (Except ReadCause Json × Nat) :=
  let negative := cs.head? == some '-'
  let body := if negative then cs.drop 1 else cs
  let digits := body.takeWhile Char.isDigit
  let whole := if digits.head? == some '0' then digits.take 1 else digits
  if whole.isEmpty then none
  else
    let signWidth := if negative then 1 else 0
    let after := body.drop whole.length
    let fraction :=
      match after with
      | '.' :: more => more.takeWhile Char.isDigit
      | _ => []
    let fractionWidth := if fraction.isEmpty then 0 else fraction.length + 1
    let after := after.drop fractionWidth
    let exponent : Option (Int × Nat) :=
      match after with
      | e :: more =>
          if e == 'e' || e == 'E' then
            let signed := more.head? == some '-' || more.head? == some '+'
            let ds := (if signed then more.drop 1 else more).takeWhile Char.isDigit
            if ds.isEmpty then none
            else
              let n : Int := digitsValue ds
              some (if more.head? == some '-' then -n else n,
                1 + (if signed then 1 else 0) + ds.length)
          else none
      | [] => none
    let width := signWidth + whole.length + fractionWidth
    if fraction.isEmpty && exponent.isNone then
      let n : Int := digitsValue whole
      if whole.length > mostDigits then some (.error (.manyDigits whole.length), width)
      else some (.ok (.int (if negative then -n else n)), width)
    else
      let (power, exponentWidth) := exponent.getD (0, 0)
      let x := Binary64.ofDecimal negative (digitsValue (whole ++ fraction)) (power - fraction.length)
      some (.ok (.float x), width + exponentWidth)

def words : List (String × Json) :=
  [("null", .null), ("true", .bool true), ("false", .bool false), ("NaN", .float .nan),
    ("Infinity", .float (.infinity false)), ("-Infinity", .float (.infinity true))]

/-- The word at the start of the characters, and how many it takes. -/
def readWord? (cs : List Char) : Option (Json × Nat) :=
  (words.find? fun word => word.1.toList.isPrefixOf cs).map fun word => (word.2, word.1.length)

mutual

/-- A value at the cursor, inside `depth` lists and records. -/
def readValue : (fuel depth : Nat) → Cursor → Except ReadError (Json × Cursor)
  | 0, _, c => c.fail .value
  | fuel + 1, depth, c =>
      match c.rest with
      | '"' :: _ => do
          let (s, after) ← readText c.position (c.rest.length + 1) (c.advance 1) []
          return (.str s, after)
      | '[' :: _ =>
          let inner := (c.advance 1).skipBlanks
          if depth ≥ mostNested then c.fail .tooDeep
          else if inner.rest.head? == some ']' then .ok (.arr [], inner.advance 1)
          else do
            let (items, after) ← readItems fuel (depth + 1) inner
            return (.arr items, after)
      | brace :: _ =>
          if brace == '\x7b' then
            let inner := (c.advance 1).skipBlanks
            if depth ≥ mostNested then c.fail .tooDeep
            else if inner.rest.head? == some '\x7d' then .ok (.obj [], inner.advance 1)
            else do
              let (pairs, after) ← readPairs fuel (depth + 1) inner
              return (.obj (Fields.ofPairs pairs), after)
          else
            match readWord? c.rest with
            | some (value, width) => .ok (value, c.advance width)
            | none =>
                match readNumber? c.rest with
                | some (.ok value, width) => .ok (value, c.advance width)
                | some (.error cause, _) => c.fail cause
                | none => c.fail .value
      | [] => c.fail .value

/-- The items of a list up to its closing bracket; at least one is expected. -/
def readItems : (fuel depth : Nat) → Cursor → Except ReadError (List Json × Cursor)
  | 0, _, c => c.fail .value
  | fuel + 1, depth, c => do
      let (item, after) ← readValue fuel depth c
      let next := after.skipBlanks
      match next.rest with
      | ']' :: _ => return ([item], next.advance 1)
      | ',' :: _ =>
          let (items, last) ← readItems fuel depth (next.advance 1).skipBlanks
          return (item :: items, last)
      | _ => next.fail .comma

/-- The fields of a record up to its closing brace; at least one is expected. -/
def readPairs : (fuel depth : Nat) → Cursor → Except ReadError (List (String × Json) × Cursor)
  | 0, _, c => c.fail .propertyName
  | fuel + 1, depth, c =>
      match c.rest with
      | '"' :: _ => do
          let (name, after) ← readText c.position (c.rest.length + 1) (c.advance 1) []
          let colon := after.skipBlanks
          if colon.rest.head? != some ':' then colon.fail .colon
          else
            let (value, after) ← readValue fuel depth (colon.advance 1).skipBlanks
            let next := after.skipBlanks
            if next.rest.head? == some '\x7d' then return ([(name, value)], next.advance 1)
            else if next.rest.head? == some ',' then
              let (pairs, last) ← readPairs fuel depth (next.advance 1).skipBlanks
              return ((name, value) :: pairs, last)
            else next.fail .comma
      | _ => c.fail .propertyName

end

/-- The document that a text holds, with nothing but blanks around it. -/
def read (text : List Char) : Except ReadError Json :=
  if text.head? == some (Char.ofNat 0xFEFF) then .error ⟨.byteOrderMark, 0⟩
  else do
    let (value, after) ← readValue (2 * text.length + 2) 0 (Cursor.skipBlanks ⟨text, 0⟩)
    let last := after.skipBlanks
    if last.rest.isEmpty then return value else last.fail .extraData

def parse (text : String) : Except ReadError Json :=
  read text.toList

end AppOperator.Json
