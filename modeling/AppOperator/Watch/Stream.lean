import AppOperator.Watch.Loop
import AppOperator.Text.Encoding

/-!
# Watch streams

A watch is answered with a stream of octets that arrives in chunks, cut anywhere.
Every line holds one event; blank lines and a last line without its end say
nothing.  Reading stops at the first line that reports an error or that no event
can be read from.

`splitLines` finds the lines that have ended in octets.  `LineReader` takes the
chunks as they come and keeps what the last line has so far.
-/

set_option autoImplicit false

namespace AppOperator

def lineEnd : UInt8 := 10

/-- The complete lines of octets, and what follows the last of them. -/
def splitLines : List UInt8 → List (List UInt8) × List UInt8
  | [] => ([], [])
  | octet :: rest =>
      match splitLines rest with
      | ([], last) => if octet = lineEnd then ([[]], last) else ([], octet :: last)
      | (line :: lines, last) =>
          if octet = lineEnd then ([] :: line :: lines, last)
          else ((octet :: line) :: lines, last)

def isBlankLine (line : List UInt8) : Bool :=
  line.all fun octet => Text.isByteSpace (Char.ofNat octet.toNat)

def reportedError (object : Json) : Except Fault Fault := do
  let status ← object.fieldOr "code" .null
  let reason ← object.fieldOr "reason" (.str "")
  let message ← object.fieldOr "message" (.str "")
  return .api ⟨false, status, reason, message⟩

namespace WatchEvent

/-- The event that a document describes. -/
def ofJson (x : Json) : Except Fault WatchEvent := do
  if (← x.fieldOr "type" .null).isText "ERROR" then
    throw (← reportedError (← x.fieldOr "object" (.obj [])))
  return ⟨← x.entry "type", ← x.entry "object"⟩

def ofLine (line : List UInt8) : Except Fault WatchEvent :=
  match Encoding.textOf? line with
  | none => .error .undecodable
  | some text =>
      match Json.parse text with
      | .error error => .error (.ofRead error text.toList)
      | .ok x => ofJson x

end WatchEvent

/-- The events of lines up to the first that has none, and the fault of that line. -/
def eventsOf : List (List UInt8) → List WatchEvent × Option Fault
  | [] => ([], none)
  | line :: rest =>
      if isBlankLine line then eventsOf rest
      else
        match WatchEvent.ofLine line with
        | .error fault => ([], some fault)
        | .ok event =>
            let (events, fault) := eventsOf rest
            (event :: events, fault)

structure LineReader where
  pending : List UInt8

namespace LineReader

def empty : LineReader := ⟨[]⟩

def take (r : LineReader) (chunk : List UInt8) : List (List UInt8) × LineReader :=
  let (lines, last) := splitLines (r.pending ++ chunk)
  (lines, ⟨last⟩)

/-- The events of chunks, one chunk after the other, and the fault that ended them. -/
def read (r : LineReader) : List (List UInt8) → List WatchEvent × Option Fault
  | [] => ([], none)
  | chunk :: rest =>
      let (lines, r) := r.take chunk
      match eventsOf lines with
      | (events, some fault) => (events, some fault)
      | (events, none) =>
          let (later, fault) := r.read rest
          (events ++ later, fault)

end LineReader

end AppOperator
