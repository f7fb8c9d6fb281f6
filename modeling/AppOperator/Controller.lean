import AppOperator.Queue
import AppOperator.Reconcile.Pass

/-!
# The controller

Workers take keys from the queue, run a pass for each, and conclude it: a
success forgets the failures of the key, a failure brings the key back after its
backoff.  Every concluded pass leaves a record in a history of bounded length.

What happens to a controller is one `ControllerEvent` after another, in any
order that `Controller.step?` allows.
-/

set_option autoImplicit false

namespace AppOperator

/-- Why a pass ran. -/
inductive Trigger where
  | event
  | retry
deriving DecidableEq, Repr

def Trigger.name : Trigger → String
  | .event => "event"
  | .retry => "retry"

structure PassRecord (κ : Type) where
  key : κ
  success : Bool
  phase : Phase
  message : String
  trigger : Trigger
  retryCount : Nat
  outcomes : Outcomes
deriving DecidableEq

inductive Worker (κ : Type) where
  /-- about to look whether the controller is running -/
  | ready
  /-- waiting for a key -/
  | waiting
  /-- running a pass that started after so many failures of its key -/
  | holding (key : κ) (retryCount : Nat)
  | exited
deriving DecidableEq, Repr

namespace Worker

variable {κ : Type}

def held? : Worker κ → Option κ
  | .holding key _ => some key
  | _ => none

def hasExited : Worker κ → Bool
  | .exited => true
  | _ => false

end Worker

structure ControllerSettings where
  reconcileInterval : Int
  maxConcurrentReconciles : Int
  historySize : Int
  backoff : Backoff Float

structure Controller (κ : Type) where
  queue : WorkQueue κ
  policy : Backoff Float
  workerCount : Nat
  capacity : Nat
  running : Bool
  workers : List (Worker κ)
  history : List (PassRecord κ)

def PassReport.unexpected (fault : Fault) : PassReport where
  success := false
  phase := .failed
  message := "Reconciliation error: " ++ fault.message
  failedPhase := none
  outcomes := []
  statusUpdated := false

/-- The report of a pass, whichever way it ended. -/
def PassReport.ofResult : Except Fault PassReport → PassReport
  | .ok report => report
  | .error fault => .unexpected fault

namespace Controller

variable {κ : Type} [BEq κ]

/-- The sizes that a machine word can state. -/
def isSize (size : Int) : Bool :=
  -9223372036854775808 ≤ size && size ≤ 9223372036854775807

/-- A controller that has not been started; the size of its history fits a machine
word and is not negative. -/
def new (settings : ControllerSettings) : Except Fault (Controller κ) :=
  if !isSize settings.historySize then .error .tooLong
  else if settings.historySize < 0 then .error (.badValue "maxlen must be non-negative")
  else
    .ok { queue := .empty
          policy := settings.backoff
          workerCount := settings.maxConcurrentReconciles.toNat
          capacity := settings.historySize.toNat
          running := false
          workers := []
          history := [] }

def enqueue (c : Controller κ) (key : κ) : Controller κ :=
  { c with queue := c.queue.add key }

def start (c : Controller κ) : Controller κ :=
  { c with running := true, workers := List.replicate c.workerCount .ready }

/-- No further work is taken in. -/
def stop (c : Controller κ) : Controller κ :=
  { c with running := false, queue := c.queue.shutdown }

def setWorker (c : Controller κ) (index : Nat) (worker : Worker κ) : Controller κ :=
  { c with workers := c.workers.set index worker }

/-- A worker goes on with what it has been given. -/
def give (c : Controller κ) (index : Nat) (taken : Taken κ × WorkQueue κ) : Controller κ :=
  let c := { c with queue := taken.2 }
  match taken.1 with
  | .key key => c.setWorker index (.holding key (c.queue.failureCount key))
  | .shutDown => c.setWorker index .exited
  | .blocked => c.setWorker index .waiting

/-- Adds a record; the oldest one gives way when the history is full. -/
def remember (c : Controller κ) (record : PassRecord κ) : Controller κ :=
  let history := c.history ++ [record]
  { c with history := history.drop (history.length - c.capacity) }

/-- The record of a pass that started after so many failures of its key. -/
def recordOf (key : κ) (retryCount : Nat) (report : PassReport) : PassRecord κ where
  key := key
  success := report.success
  phase := report.recordedPhase
  message := report.message
  trigger := if retryCount > 0 then .retry else .event
  retryCount := retryCount
  outcomes := report.outcomes

/-- Concludes a pass: the failures of its key are forgotten or count one more, and
the pass is recorded. -/
def conclude (c : Controller κ) (key : κ) (retryCount : Nat) (report : PassReport)
    (random now : Float) (serial : Nat) : Controller κ :=
  let queue :=
    if report.success then c.queue.forget key
    else (c.queue.addRateLimited c.policy random key now serial).2
  { c with queue := queue }.remember (recordOf key retryCount report)

/-- The last records, newest first. -/
def recent (c : Controller κ) (limit : Int) : List (PassRecord κ) :=
  (c.history.drop (c.history.length - limit.toNat)).reverse

def allExited (c : Controller κ) : Bool :=
  c.workers.all (·.hasExited)

end Controller

/-- What can happen to a controller. -/
inductive ControllerEvent (κ : Type) where
  /-- a pass is asked for -/
  | enqueue (key : κ)
  /-- a worker that is ready looks for work -/
  | poll (worker : Nat)
  /-- a worker that was woken tries again -/
  | wake (worker : Nat)
  /-- a worker concludes its pass -/
  | conclude (worker : Nat) (report : PassReport) (random now : Float) (serial : Nat)
  /-- a timer goes off -/
  | fire (key : κ)
  /-- the controller is stopped -/
  | stop

namespace Controller

variable {κ : Type} [BEq κ]

/-- The state after an event, if the event can happen. -/
def step? (c : Controller κ) : ControllerEvent κ → Option (Controller κ)
  | .enqueue key => some (c.enqueue key)
  | .poll index =>
      match c.workers[index]? with
      | some .ready =>
          if c.running then some (c.give index (c.queue.take index))
          else some (c.setWorker index .exited)
      | _ => none
  | .wake index =>
      match c.workers[index]? with
      | some .waiting =>
          if index ∈ c.queue.woken then some (c.give index (c.queue.retake index)) else none
      | _ => none
  | .conclude index report random now serial =>
      match c.workers[index]? with
      | some (.holding key retryCount) =>
          let concluded := c.conclude key retryCount report random now serial
          some ({ concluded with queue := concluded.queue.finish key }.setWorker index .ready)
      | _ => none
  | .fire key =>
      if c.queue.timers.any (fun timer => timer.key == key) then
        some { c with queue := c.queue.fire key }
      else none
  | .stop => some c.stop

/-- The state after a list of events, if each can happen in its turn. -/
def run? (c : Controller κ) : List (ControllerEvent κ) → Option (Controller κ)
  | [] => some c
  | event :: rest => (c.step? event).bind fun after => after.run? rest

end Controller

end AppOperator
