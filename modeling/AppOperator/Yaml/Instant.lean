import AppOperator.Fault

/-!
# Days and moments

A scalar may write a day of the calendar, or a moment: a day, a time of day down to
millionths of a second, and perhaps how far its clock is ahead of the zero meridian.
Two moments with known offsets agree when they are the same instant.
-/

set_option autoImplicit false

namespace AppOperator.Yaml

structure Day where
  year : Nat
  month : Nat
  day : Nat
deriving DecidableEq, Repr

/-- A moment; `offset` is how many minutes its clock is ahead of the zero meridian. -/
structure Moment where
  day : Day
  hour : Nat
  minute : Nat
  second : Nat
  millionths : Nat
  offset : Option Int
deriving DecidableEq, Repr

namespace Day

def isLeap (year : Nat) : Bool :=
  year % 4 == 0 && (year % 100 != 0 || year % 400 == 0)

/-- The length of a month, counted from one. -/
def monthLength (year month : Nat) : Nat :=
  if month == 2 then (if isLeap year then 29 else 28)
  else if month == 4 || month == 6 || month == 9 || month == 11 then 30
  else 31

/-- A day that the calendar has. -/
def of (year month day : Nat) : Except Fault Day :=
  if year < 1 then .error (.badValue ("year " ++ Decimal.natText year ++ " is out of range"))
  else if month < 1 || 12 < month then .error (.badValue "month must be in 1..12")
  else if day < 1 || monthLength year month < day then
    .error (.badValue "day is out of range for month")
  else .ok ⟨year, month, day⟩

/-- The number of days before a day. -/
def serial (d : Day) : Nat :=
  let years := d.year - 1
  let months :=
    (List.range (d.month - 1)).foldl (fun days index => days + monthLength d.year (index + 1)) 0
  years * 365 + years / 4 - years / 100 + years / 400 + months + (d.day - 1)

/-- A number with zeros in front of it up to a width. -/
def padded (width n : Nat) : String :=
  let digits := (Decimal.natText n).toList
  String.ofList (List.replicate (width - digits.length) '0' ++ digits)

def spoken (d : Day) : String :=
  padded 4 d.year ++ "-" ++ padded 2 d.month ++ "-" ++ padded 2 d.day

/-- The three numbers of a day. -/
def numbers (d : Day) : List Nat := [d.year, d.month, d.day]

/-- A day as messages show it. -/
def shown (d : Day) : String :=
  "datetime.date(" ++ ", ".intercalate (d.numbers.map Decimal.natText) ++ ")"

end Day

namespace Moment

/-- A length of time in minutes as messages show it: days, which may be negative, and
seconds that are not. -/
def shownMinutes (minutes : Int) : String :=
  let days := Int.fdiv minutes 1440
  let seconds := Int.fmod minutes 1440 * 60
  let parts := (if days == 0 then [] else ["days=" ++ Decimal.intText days])
    ++ (if seconds == 0 then [] else ["seconds=" ++ Decimal.intText seconds])
  "datetime.timedelta(" ++ (if parts.isEmpty then "0" else ", ".intercalate parts) ++ ")"

/-- An offset is shorter than a day. -/
def checkOffset (minutes : Int) : Except Fault Int :=
  if -1440 < minutes && minutes < 1440 then .ok minutes
  else
    .error (.badValue
      ("offset must be a timedelta strictly between -timedelta(hours=24) and timedelta(hours=24), "
        ++ "not " ++ shownMinutes minutes ++ "."))

/-- A moment that the calendar and the clock have. -/
def of (day : Except Fault Day) (hour minute second millionths : Nat) (offset : Option Int) :
    Except Fault Moment := do
  let offset ← offset.mapM checkOffset
  let day ← day
  if 23 < hour then throw (.badValue "hour must be in 0..23")
  if 59 < minute then throw (.badValue "minute must be in 0..59")
  if 59 < second then throw (.badValue "second must be in 0..59")
  return ⟨day, hour, minute, second, millionths, offset⟩

/-- The millionths of a second from the first day on by the zero meridian. -/
def instant (m : Moment) (offset : Int) : Int :=
  let minutes : Int := (m.day.serial * 24 + m.hour) * 60 + m.minute
  (minutes - offset) * 60000000 + m.second * 1000000 + m.millionths

def agrees (m n : Moment) : Bool :=
  match m.offset, n.offset with
  | some a, some b => m.instant a == n.instant b
  | none, none => m == n
  | _, _ => false

/-- A moment inside a sentence. -/
def spoken (m : Moment) : String :=
  let offset :=
    match m.offset with
    | none => ""
    | some minutes =>
        (if minutes < 0 then "-" else "+") ++ Day.padded 2 (minutes.natAbs / 60) ++ ":"
          ++ Day.padded 2 (minutes.natAbs % 60)
  m.day.spoken ++ " " ++ Day.padded 2 m.hour ++ ":" ++ Day.padded 2 m.minute ++ ":"
    ++ Day.padded 2 m.second
    ++ (if m.millionths == 0 then "" else "." ++ Day.padded 6 m.millionths) ++ offset

/-- A moment as messages show it; seconds and millionths are left out while they are zero. -/
def shown (m : Moment) : String :=
  let small :=
    if m.millionths != 0 then [m.second, m.millionths]
    else if m.second != 0 then [m.second]
    else []
  let offset :=
    match m.offset with
    | none => []
    | some minutes =>
        ["tzinfo=datetime.timezone" ++
          if minutes == 0 then ".utc" else "(" ++ shownMinutes minutes ++ ")"]
  "datetime.datetime(" ++ ", ".intercalate
    ((m.day.numbers ++ [m.hour, m.minute] ++ small).map Decimal.natText ++ offset) ++ ")"

end Moment

inductive Instant where
  | day (day : Day)
  | moment (moment : Moment)
deriving DecidableEq, Repr

namespace Instant

/-- A number of at least and at most so many digits, and what follows it. -/
def digits? (least most : Nat) (cs : List Char) : Option (Nat × List Char) :=
  let row := (cs.takeWhile Char.isDigit).take most
  if row.length < least then none else some (Json.digitsValue row, cs.drop row.length)

def behind? (c : Char) (cs : List Char) : Option (List Char) :=
  if cs.head? == some c then some (cs.drop 1) else none

def isBlank (c : Char) : Bool := c == ' ' || c == '\t'

/-- The numbers of a day, and what follows. -/
def dayNumbers? (least : Nat) (cs : List Char) : Option ((Nat × Nat × Nat) × List Char) := do
  let (years, cs) ← digits? 4 4 cs
  let (months, cs) ← digits? least 2 (← behind? '-' cs)
  let (days, cs) ← digits? least 2 (← behind? '-' cs)
  return ((years, months, days), cs)

/-- The numbers of a time of day, the digits of the part of a second, and what follows. -/
def timeNumbers? (cs : List Char) : Option ((Nat × Nat × Nat) × List Char × List Char) := do
  let cs ← (behind? 'T' cs).or <| (behind? 't' cs).or <|
    if cs.head?.any isBlank then some (cs.dropWhile isBlank) else none
  let (hour, cs) ← digits? 1 2 cs
  let (minute, cs) ← digits? 2 2 (← behind? ':' cs)
  let (second, cs) ← digits? 2 2 (← behind? ':' cs)
  match behind? '.' cs with
  | some cs => return ((hour, minute, second), cs.takeWhile Char.isDigit, cs.dropWhile Char.isDigit)
  | none => return ((hour, minute, second), [], cs)

/-- The offset that ends a moment in minutes, if one is written. -/
def offset? (cs : List Char) : Option (Option Int) :=
  match cs.dropWhile isBlank with
  | [] => if cs.isEmpty then some none else none
  | ['Z'] => some (some 0)
  | sign :: rest => do
      if sign != '+' && sign != '-' then none
      let (hours, rest) ← digits? 1 2 rest
      let minutes ←
        if rest.isEmpty then some 0
        else
          match digits? 2 2 (← behind? ':' rest) with
          | some (minutes, []) => some minutes
          | _ => none
      let total : Int := hours * 60 + minutes
      return some (if sign == '-' then -total else total)

/-- The first six digits of a fraction, filled up with zeros. -/
def millionths (digits : List Char) : Nat :=
  let six := digits.take 6
  Json.digitsValue six * tenTo (6 - six.length)

/-- What is written of an instant: the numbers of its day, of its time, the digits of the
part of a second, and the offset. -/
structure Written where
  date : Nat × Nat × Nat
  time : Option ((Nat × Nat × Nat) × List Char × Option Int)

/-- The parts of a text that writes an instant; a day that stands alone has at least so
many digits for its month and its number. -/
def written? (least : Nat) (cs : List Char) : Option Written := do
  let (date, rest) ← dayNumbers? 1 cs
  if rest.isEmpty then
    let (date, _) ← dayNumbers? least cs
    return ⟨date, none⟩
  let (time, fraction, rest) ← timeNumbers? rest
  return ⟨date, some (time, fraction, ← offset? rest)⟩

/-- The instant of its written parts. -/
def ofWritten (w : Written) : Except Fault Instant :=
  let (years, months, days) := w.date
  match w.time with
  | none => (Day.of years months days).map .day
  | some ((hour, minute, second), fraction, offset) =>
      (Moment.of (Day.of years months days) hour minute second (millionths fraction) offset).map
        .moment

end Instant

end AppOperator.Yaml
