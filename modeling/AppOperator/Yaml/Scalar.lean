import AppOperator.Number.Reading
import AppOperator.Text.Base64
import AppOperator.Yaml.Instant
import AppOperator.Yaml.Tag

/-!
# Scalars

A scalar without quotes is more than text when it is one of a few words or has
the form of a number or of an instant.  `Tag.ofPlain` says what such a scalar
is; the reader takes its value from that, and the writer puts quotes around a
text that would be taken for something else.

A tag may also be given to any text.  The value is then read by the rules of the
tag, which are wider than the forms of plain scalars, or the text is at fault.
-/

set_option autoImplicit false

namespace AppOperator.Yaml

def nullWords : List String := ["", "~", "null", "Null", "NULL"]

def trueWords : List String := ["yes", "Yes", "YES", "true", "True", "TRUE", "on", "On", "ON"]

def falseWords : List String :=
  ["no", "No", "NO", "false", "False", "FALSE", "off", "Off", "OFF"]

/-- The characters behind a sign, if there is one. -/
def unsigned (cs : List Char) : List Char :=
  (Reading.signed cs).2

def isOctalDigit (c : Char) : Bool := '0' ≤ c && c ≤ '7'

def isBinaryDigit (c : Char) : Bool := c == '0' || c == '1'

/-- Digits of some base with underscores anywhere, at least one character. -/
def areDigits (p : Char → Bool) (cs : List Char) : Bool :=
  !cs.isEmpty && cs.all fun c => p c || c == '_'

/-- A digit from one on, then digits with underscores anywhere. -/
def isCounting (cs : List Char) : Bool :=
  match cs with
  | c :: rest => '1' ≤ c && c ≤ '9' && (rest.isEmpty || areDigits Char.isDigit rest)
  | [] => false

/-- A digit, then digits with underscores anywhere. -/
def isDigitRow (cs : List Char) : Bool :=
  match cs with
  | c :: rest => c.isDigit && (rest.isEmpty || areDigits Char.isDigit rest)
  | [] => false

/-- One or two digits below sixty, the second part of a time. -/
def isSixtieth (cs : List Char) : Bool :=
  match cs with
  | [a] => a.isDigit
  | [a, b] => '0' ≤ a && a ≤ '5' && b.isDigit
  | _ => false

/-- Counts of sixtieths behind colons, at least one. -/
def areSixtieths (isHead : List Char → Bool) (cs : List Char) : Bool :=
  match Text.splitOnChar ':' cs with
  | first :: second :: rest => isHead first && (second :: rest).all isSixtieth
  | _ => false

def isWhole (cs : List Char) : Bool :=
  match unsigned cs with
  | ['0'] => true
  | '0' :: 'b' :: rest => areDigits isBinaryDigit rest
  | '0' :: 'x' :: rest => areDigits (fun c => (Json.hexValue? c).isSome) rest
  | '0' :: rest => areDigits isOctalDigit rest
  | body => isCounting body || areSixtieths isCounting body

/-- Nothing, or the mark of a power of ten with its sign and digits. -/
def isPower (cs : List Char) : Bool :=
  match cs with
  | [] => true
  | mark :: sign :: digits =>
      (mark == 'e' || mark == 'E') && (sign == '+' || sign == '-')
        && !digits.isEmpty && digits.all Char.isDigit
  | _ => false

/-- What stands before and behind the first point, if there is one. -/
def atPoint? (cs : List Char) : Option (List Char × List Char) :=
  match cs.dropWhile (· != '.') with
  | _ :: behind => some (cs.takeWhile (· != '.'), behind)
  | [] => none

def isNumber (cs : List Char) : Bool :=
  let isPart (c : Char) : Bool := c.isDigit || c == '_'
  match atPoint? cs with
  | none => false
  | some (before, behind) =>
      let word := String.ofList behind
      if before.isEmpty && ["nan", "NaN", "NAN"].contains word then true
      else if (unsigned before).isEmpty && ["inf", "Inf", "INF"].contains word then true
      else if before.isEmpty then
        (behind.head?.any Char.isDigit) && isPower (behind.dropWhile isPart)
      else if isDigitRow (unsigned before) then isPower (behind.dropWhile isPart)
      else areSixtieths isDigitRow (unsigned before) && behind.all isPart

/-- The form of a plain scalar is that of its text up to one line break at the end. -/
def withoutLastBreak (cs : List Char) : List Char :=
  if cs.length > 1 && cs.getLast? == some '\n' then cs.dropLast else cs

def Tag.ofPlain (s : String) : Tag :=
  let cs := withoutLastBreak s.toList
  let word := String.ofList cs
  if nullWords.contains word then .null
  else if trueWords.contains word || falseWords.contains word then .truth
  else if isNumber cs then .number
  else if isWhole cs then .whole
  else if word == "<<" then .merge
  else if (Instant.written? 2 cs).isSome then .instant
  else if word == "=" then .fallback
  else if word == "!" || word == "&" || word == "*" then .foreign
  else .text

/-- The characters of a number without the underscores between them. -/
def bare (cs : List Char) : List Char :=
  cs.filter (· != '_')

/-- The sum of the places of a number to the base sixty, the lowest place first. -/
def sixtieths {α : Type} (add : α → α → Nat → Except Fault α) (zero : α) (digits : List α) :
    Except Fault α :=
  digits.zipIdx.foldlM (fun sum (digit, index) => add sum digit (Nat.pow 60 index)) zero

def wholeValue (s : String) : Except Fault Int := do
  let cs := bare s.toList
  if cs.isEmpty then throw (.outOfRange .text)
  let (negative, body) := Reading.signed cs
  let signed (n : Int) : Int := if negative then -n else n
  match body with
  | [] => throw (.outOfRange .text)
  | ['0'] => return 0
  | '0' :: 'b' :: digits => return signed (← Reading.intTo 2 (String.ofList digits))
  | '0' :: 'x' :: digits => return signed (← Reading.intTo 16 (String.ofList digits))
  | '0' :: _ => return signed (← Reading.intTo 8 (String.ofList body))
  | _ =>
      let parts ← (Text.splitOnChar ':' body).mapM fun part => Reading.int (String.ofList part)
      let add (sum digit : Int) (place : Nat) : Except Fault Int := .ok (sum + digit * place)
      return signed (← sixtieths add 0 parts.reverse)

/-- A number times a place of the base sixty, added to a sum. -/
def addSixtieths (sum digit : Binary64) (place : Nat) : Except Fault Binary64 :=
  let place := Binary64.ofInt place
  if place.isInfinite then .error .tooLarge
  else .ok (.ofFloat (sum.toFloat + digit.toFloat * place.toFloat))

def numberValue (s : String) : Except Fault Binary64 := do
  let cs := (bare s.toList).map Char.toLower
  if cs.isEmpty then throw (.outOfRange .text)
  let (negative, body) := Reading.signed cs
  let signed (x : Binary64) : Binary64 := if negative then .ofFloat (-x.toFloat) else x
  if body == ".inf".toList then return .infinity negative
  else if body == ".nan".toList then return .nan
  else
    let parts ← (Text.splitOnChar ':' body).mapM fun part => Reading.float (String.ofList part)
    match parts with
    | [one] => return signed one
    | parts => return signed (← sixtieths addSixtieths (.zero false) parts.reverse)

/-- The value of a text as a truth value: one of the words in any case. -/
def truthValue (s : String) : Except Fault Bool :=
  let word := String.ofList (s.toList.map Char.toLower)
  if trueWords.contains word then .ok true
  else if falseWords.contains word then .ok false
  else .error (.missingField word)

/-- The octets that a text writes in base 64. -/
def octetsValue (s : String) : Except Fault (List UInt8) :=
  match if s.toList.all fun c => c.toNat < 0x80 then Base64.decode? s.toList else none with
  | some octets => .ok octets
  | none => .error (.unreadableYaml .content)

def instantValue (s : String) : Except Fault Instant :=
  match Instant.written? 1 (withoutLastBreak s.toList) with
  | some written => Instant.ofWritten written
  | none => .error (.noPart .null "groupdict")

end AppOperator.Yaml
