/-!
# Agendas

What has been put off waits in an agenda: errands that are ready are run in the
order in which they came, and alarms become ready when their instant has come.
Time stands still while anything is ready and then moves on to the next alarm.
-/

set_option autoImplicit false

namespace AppOperator

/-- An errand that is put off to an instant.  Alarms are numbered as they are set. -/
structure Alarm (ε : Type) where
  due : Float
  serial : Nat
  errand : ε

/-- Two alarms in their order: by instant, and of one instant the earlier set first. -/
def Alarm.notAfter {ε : Type} (a b : Alarm ε) : Bool :=
  a.due < b.due || (!(b.due < a.due) && a.serial ≤ b.serial)

/-- The errands to be run and the time. -/
structure Agenda (ε : Type) where
  now : Float
  nextSerial : Nat
  ready : List ε
  alarms : List (Alarm ε)

namespace Agenda

variable {ε : Type}

def empty : Agenda ε := ⟨0, 0, [], []⟩

/-- An errand comes after those that are ready. -/
def push (a : Agenda ε) (errand : ε) : Agenda ε :=
  { a with ready := a.ready ++ [errand] }

/-- An errand comes before those that are ready. -/
def pushFront (a : Agenda ε) (errand : ε) : Agenda ε :=
  { a with ready := errand :: a.ready }

def takeSerial (a : Agenda ε) : Nat × Agenda ε :=
  (a.nextSerial, { a with nextSerial := a.nextSerial + 1 })

/-- Puts an errand off by a delay. -/
def setAlarm (a : Agenda ε) (delay : Float) (errand : ε) : Agenda ε :=
  { a with
    nextSerial := a.nextSerial + 1
    alarms := a.alarms ++ [⟨a.now + delay, a.nextSerial, errand⟩] }

/-- Drops the errands that a test picks out, ready or put off. -/
def cancel (a : Agenda ε) (picked : ε → Bool) : Agenda ε :=
  { a with
    ready := a.ready.filter fun errand => !picked errand
    alarms := a.alarms.filter fun alarm => !picked alarm.errand }

/-- Two instants closer than this are one. -/
def resolution : Float := 1e-9

def earliest : List (Alarm ε) → Option Float
  | [] => none
  | alarm :: rest =>
      match earliest rest with
      | some due => some (if due < alarm.due then due else alarm.due)
      | none => some alarm.due

/-- Time moves on to the earliest of the own alarms and of others that are kept
elsewhere; what is due then becomes ready, in the order of the alarms. -/
def advance? (a : Agenda ε) (others : List (Alarm ε)) : Option (Agenda ε) :=
  (earliest (a.alarms ++ others)).map fun due =>
    let now := if a.now < due then due else a.now
    let isDue (alarm : Alarm ε) : Bool := alarm.due < now + resolution
    let batch := ((a.alarms ++ others).filter isDue).mergeSort Alarm.notAfter
    { a with
      now := now
      ready := a.ready ++ batch.map (·.errand)
      alarms := a.alarms.filter fun alarm => !isDue alarm }

end Agenda

end AppOperator
