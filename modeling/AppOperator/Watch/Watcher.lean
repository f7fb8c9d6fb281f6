import AppOperator.Controller
import AppOperator.Watch.Loop

/-!
# The watcher

One loop for each watched kind, and a resync that asks for every declaration
from time to time.  The watcher remembers for which kinds a list has been gone
through; when that holds for all of them, it is in step with the cluster.

A failed request does not end the resync; an object that no key can be read from
does, and so does a pause that cannot be measured.  The watcher ends with the first
fault that ended one of its parts.
-/

set_option autoImplicit false

namespace AppOperator

/-- A length of time, or the fault that comes of waiting for it. -/
abbrev Pause := Except Fault Float

/-- A number of seconds; a whole number beyond every number with a fraction cannot
be waited for. -/
def Pause.ofInt (seconds : Int) : Pause :=
  if (Binary64.ofInt seconds).isFinite then .ok (Binary64.ofInt seconds).toFloat
  else .error .tooLarge

/-- How long the watcher waits: between resyncs, for a stream, after a failure. -/
structure WatchPace where
  resyncInterval : Pause
  watchTimeout : Pause
  retryDelay : Pause

def WatchPace.default : WatchPace := ⟨.ok 300, .ok 300, .ok 5⟩

/-- The resync: not started, waiting for its time, or ended. -/
inductive Resync where
  | idle
  | waiting
  | ended
deriving DecidableEq, Repr

structure Watcher where
  namespaceName : Option String
  pace : WatchPace
  running : Bool
  /-- the kinds for which a list has been gone through -/
  synced : List String
  loops : List WatchLoop
  resync : Resync
  /-- the first fault that ended a loop or the resync -/
  fault? : Option Fault

abbrev Listing := Except Fault (List Json × Json)

def Listing.input : Listing → WatchInput
  | .ok (items, version) => .listed items version
  | .error fault => .failed fault

namespace Controller

/-- Keys are still taken in. -/
def isTaking {κ : Type} (c : Controller κ) : Bool :=
  !c.queue.shuttingDown

def request (c : Controller ObjectKey) (key : ObjectKey) : Controller ObjectKey :=
  if (key.refusal? c.isTaking).isSome then c else c.enqueue key

end Controller

namespace Watcher

def new (namespaceName : Option String) (pace : WatchPace) : Watcher :=
  ⟨namespaceName, pace, false, [], [], .idle, none⟩

/-- A list has been gone through for every watched kind. -/
def hasSynced (w : Watcher) : Bool :=
  ResourceKind.watched.all fun kind => kind.name ∈ w.synced

/-- A list has been gone through for a kind. -/
def markSynced (w : Watcher) (kind : ResourceKind) : Watcher :=
  if kind.name ∈ w.synced then w else { w with synced := w.synced ++ [kind.name] }

/-- Starts one loop for each of some kinds. -/
def watch (w : Watcher) (kinds : List ResourceKind) : Watcher :=
  { w with running := true, loops := kinds.map WatchLoop.new, fault? := none }

/-- Starts all loops and the resync. -/
def start (w : Watcher) : Watcher :=
  { w.watch ResourceKind.watched with resync := .waiting }

def loop? (w : Watcher) (kind : ResourceKind) : Option WatchLoop :=
  w.loops.find? fun loop => loop.kind = kind

def setLoop (w : Watcher) (loop : WatchLoop) : Watcher :=
  { w with loops := w.loops.map fun other => if other.kind = loop.kind then loop else other }

/-- Something happens to the loop of a kind. -/
def turn (w : Watcher) (taking : Bool) (kind : ResourceKind) (input : WatchInput) :
    Option (List ObjectKey × Watcher) := do
  let taken ← (← w.loop? kind).step taking input
  let w := w.setLoop taken.loop
  return (taken.keys, if taken.listed then w.markSynced kind else w)

/-- The loop of a kind leaves, as the watcher no longer runs. -/
def endLoop (w : Watcher) (kind : ResourceKind) : Watcher :=
  { w with loops := w.loops.map fun loop =>
      if loop.kind = kind then { loop with stage := .ended } else loop }

def breakLoop (w : Watcher) (kind : ResourceKind) (fault : Fault) : Watcher :=
  { w.endLoop kind with fault? := w.fault?.or (some fault) }

/-- A fault ends the resync. -/
def breakResync (w : Watcher) (fault : Fault) : Watcher :=
  { w with resync := .ended, fault? := w.fault?.or (some fault) }

/-- The declarations are listed again. -/
def resynced (w : Watcher) (taking : Bool) (answer : Listing) : List ObjectKey × Watcher :=
  match w.resync, answer with
  | .waiting, .error (.api _) => ([], w)
  | .waiting, .error fault => ([], w.breakResync fault)
  | .waiting, .ok (items, _) =>
      match keysOf taking .simpleApp items with
      | (keys, none) => (keys, w)
      | (keys, some fault) => (keys, w.breakResync fault)
  | _, _ => ([], w)

/-- Asks all loops and the resync to leave. -/
def cancel (w : Watcher) : Watcher :=
  { w with running := false }

/-- The resync leaves, as the watcher no longer runs. -/
def endResync (w : Watcher) : Watcher :=
  { w with resync := .ended }

def watches (w : Watcher) (kind : ResourceKind) : Bool :=
  w.loops.any fun loop => loop.kind = kind && loop.stage ≠ .ended

/-- No loop and no resync is left. -/
def hasEnded (w : Watcher) : Bool :=
  w.loops.all (fun loop => loop.stage = .ended) && w.resync ≠ .waiting

/-- Ends all loops and the resync. -/
def stop (w : Watcher) : Watcher :=
  { w with
    running := false
    loops := w.loops.map fun loop => { loop with stage := .ended }
    resync := .ended }

end Watcher

end AppOperator
