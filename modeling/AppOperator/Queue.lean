import AppOperator.Backoff

/-!
# The work queue

Keys wait in a line without duplicates.  A key that is handed out is held until
`finish`; asked for meanwhile, it is marked and goes back in line then, so that
nobody else gets it before.  A failed key comes back after a delay, by a timer.
Shutting down puts a marker at the end of the line: what waits before it is
handed out, the marker itself never leaves, and everyone after is sent away.

Keys are told apart by the equality that their type brings along; of keys that agree
the queue hands out the one that joined the line.

Callers of `take` who find the line empty are blocked in turn; every entry that
joins the line wakes the first of them, who then tries again.
-/

set_option autoImplicit false

namespace AppOperator

/-- What stands in the line: a key, or the marker that ends it. -/
inductive Entry (κ : Type) where
  | key (key : κ)
  | marker
deriving DecidableEq, Repr

/-- A key that comes back at an instant.  Timers are numbered as they are set. -/
structure Timer (κ : Type) where
  key : κ
  due : Float
  serial : Nat

structure WorkQueue (κ : Type) where
  /-- the line -/
  inner : List (Entry κ)
  /-- the keys asked for since they were last handed out -/
  dirty : List κ
  /-- the keys handed out and not finished -/
  processing : List κ
  /-- the number of failures of each key since it last succeeded -/
  failures : List (κ × Nat)
  /-- the keys that come back later -/
  timers : List (Timer κ)
  shuttingDown : Bool
  /-- the callers who wait for an entry, in turn -/
  blocked : List Nat
  /-- the callers who have been woken and have not tried again yet -/
  woken : List Nat

/-- The answer to a caller. -/
inductive Taken (κ : Type) where
  | key (key : κ)
  | shutDown
  | blocked
deriving DecidableEq, Repr

namespace WorkQueue

variable {κ : Type} [BEq κ]

def empty : WorkQueue κ where
  inner := []
  dirty := []
  processing := []
  failures := []
  timers := []
  shuttingDown := false
  blocked := []
  woken := []

/-- The number of entries in line, the marker included. -/
def length (q : WorkQueue κ) : Nat :=
  q.inner.length

/-- The key has been asked for. -/
def isPending (q : WorkQueue κ) (key : κ) : Bool :=
  q.dirty.contains key

/-- An entry joins the line and wakes the first caller who is blocked. -/
def put (q : WorkQueue κ) (entry : Entry κ) : WorkQueue κ :=
  match q.blocked with
  | [] => { q with inner := q.inner ++ [entry] }
  | caller :: rest =>
      { q with inner := q.inner ++ [entry], blocked := rest, woken := q.woken ++ [caller] }

/-- Asks for a key, unless it is asked for already. -/
def add (q : WorkQueue κ) (key : κ) : WorkQueue κ :=
  if q.shuttingDown || q.dirty.contains key then q
  else
    let q := { q with dirty := q.dirty ++ [key] }
    if q.processing.contains key then q else q.put (.key key)

/-- A caller takes the first entry of the line, or is blocked. -/
def take (q : WorkQueue κ) (caller : Nat) : Taken κ × WorkQueue κ :=
  match q.inner with
  | [] => (.blocked, { q with blocked := q.blocked ++ [caller] })
  | .key key :: rest =>
      (.key key, { q with
        inner := rest
        dirty := q.dirty.filter (· != key)
        processing := q.processing.filter (· != key) ++ [key] })
  | .marker :: rest => (.shutDown, { q with inner := rest }.put .marker)

/-- A woken caller tries again. -/
def retake (q : WorkQueue κ) (caller : Nat) : Taken κ × WorkQueue κ :=
  { q with woken := q.woken.erase caller }.take caller

/-- A key has been worked on; asked for meanwhile, it joins the line. -/
def finish (q : WorkQueue κ) (key : κ) : WorkQueue κ :=
  let q := { q with processing := q.processing.filter (· != key) }
  if q.dirty.contains key && !q.shuttingDown then q.put (.key key) else q

/-- The number of failures of a key since it last succeeded. -/
def failureCount (q : WorkQueue κ) (key : κ) : Nat :=
  ((q.failures.find? fun entry => entry.1 == key).map (·.2)).getD 0

def setFailures (q : WorkQueue κ) (key : κ) (count : Nat) : WorkQueue κ :=
  { q with failures := (q.failures.filter fun entry => entry.1 != key) ++ [(key, count)] }

/-- A key has succeeded. -/
def forget (q : WorkQueue κ) (key : κ) : WorkQueue κ :=
  { q with failures := q.failures.filter fun entry => entry.1 != key }

/-- Asks for a key after a delay, in place of a timer set before; without a delay, at once. -/
def addAfter (q : WorkQueue κ) (key : κ) (delay now : Float) (serial : Nat) : WorkQueue κ :=
  if q.shuttingDown then q
  else if delay ≤ 0 then q.add key
  else
    { q with timers := (q.timers.filter fun timer => timer.key != key) ++
        [⟨key, now + delay, serial⟩] }

/-- The timer of a key goes off. -/
def fire (q : WorkQueue κ) (key : κ) : WorkQueue κ :=
  { q with timers := q.timers.filter fun timer => timer.key != key }.add key

/-- A key has failed: its failures count one more, and it comes back after its
backoff, which is returned. -/
def addRateLimited (q : WorkQueue κ) (policy : Backoff Float) (random : Float) (key : κ)
    (now : Float) (serial : Nat) : Float × WorkQueue κ :=
  let failures := q.failureCount key
  let delay := policy.delay failures random
  (delay, (q.setFailures key (failures + 1)).addAfter key delay now serial)

/-- No key joins the line from now on, and everyone who waits is released. -/
def shutdown (q : WorkQueue κ) : WorkQueue κ :=
  if q.shuttingDown then q
  else { q with shuttingDown := true, timers := [] }.put .marker

end WorkQueue

end AppOperator
