import AppOperator.Simulation.World

/-!
# A work queue in virtual time

A queue with its clock, and with callers who each wait for one key.  After every
operation the callers who were woken try again in their turn, until nobody is
left who could go on, and then the timers that are due go off; what the callers got
is noted.
-/

set_option autoImplicit false

namespace AppOperator

/-- A queue, the time, and what the callers who waited have got. -/
structure TimedQueue where
  queue : WorkQueue String
  policy : Backoff Float
  now : Float
  nextSerial : Nat
  randoms : RandomTape
  released : List (Nat × Taken String)

namespace TimedQueue

def new (policy : Backoff Float) (randoms : RandomTape) : TimedQueue :=
  ⟨.empty, policy, 0, 0, randoms, []⟩

/-- Notes what a caller has got, unless the caller still waits. -/
def release (t : TimedQueue) (caller : Nat) (taken : Taken String × WorkQueue String) : TimedQueue :=
  match taken with
  | (.blocked, queue) => { t with queue := queue }
  | (answer, queue) => { t with queue := queue, released := t.released ++ [(caller, answer)] }

/-- Woken callers try again; the limit is the number of tries. -/
def settleWithin (t : TimedQueue) : Nat → TimedQueue
  | 0 => t
  | limit + 1 =>
      match t.queue.woken with
      | [] => t
      | caller :: _ => (t.release caller (t.queue.retake caller)).settleWithin limit

/-- Lets every caller go on who can: a caller goes on at most once for each entry and
once for the marker. -/
def serve (t : TimedQueue) : TimedQueue :=
  t.settleWithin (2 * (t.queue.woken.length + t.queue.blocked.length + t.queue.length) + 2)

/-- The timers that are due at an instant go off in their order. -/
def fireDue (t : TimedQueue) (instant : Float) : TimedQueue :=
  let due := t.queue.timers.filter fun timer => timer.due < instant + Agenda.resolution
  let alarms : List (Alarm String) := due.map fun timer => ⟨timer.due, timer.serial, timer.key⟩
  (alarms.mergeSort Alarm.notAfter).foldl
    (fun t alarm => { t with queue := t.queue.fire alarm.errand }.serve) t

/-- Lets everything happen that can happen now. -/
def settle (t : TimedQueue) : TimedQueue :=
  t.serve.fireDue t.now

def change (t : TimedQueue) (change : WorkQueue String → WorkQueue String) : TimedQueue :=
  { t with queue := change t.queue }.settle

/-- A caller begins to wait for a key. -/
def wait (t : TimedQueue) (caller : Nat) : TimedQueue :=
  (t.release caller (t.queue.take caller)).settle

/-- The first key of the line, if there is anything in it. -/
def get (t : TimedQueue) : Taken String × TimedQueue :=
  if t.queue.length = 0 then (.blocked, t)
  else
    let (answer, queue) := t.queue.take 0
    (answer, { t with queue := queue }.settle)

/-- The delay that a failure of a key would lead to. -/
def backoff (t : TimedQueue) (key : String) : Float × TimedQueue :=
  (t.policy.delay (t.queue.failureCount key) t.randoms.peek, { t with randoms := t.randoms.next })

def addAfter (t : TimedQueue) (key : String) (delay : Float) : TimedQueue :=
  { t with nextSerial := t.nextSerial + 1 }.change
    fun queue => queue.addAfter key delay t.now t.nextSerial

def addRateLimited (t : TimedQueue) (key : String) : Float × TimedQueue :=
  let (delay, queue) := t.queue.addRateLimited t.policy t.randoms.peek key t.now t.nextSerial
  (delay, { t with
    queue := queue, nextSerial := t.nextSerial + 1, randoms := t.randoms.next }.settle)

def advance (t : TimedQueue) (seconds : Float) : TimedQueue :=
  let now := if seconds ≤ 0 then t.now else t.now + seconds
  { t.fireDue now with now := now }

end TimedQueue

end AppOperator
