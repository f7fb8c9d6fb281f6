import AppOperator.Simulation.Agenda
import AppOperator.Cluster.Store
import AppOperator.Controller
import AppOperator.RouteClass
import AppOperator.Watch.Watcher

/-!
# The operator in virtual time

A world holds an operator and the cluster in memory that it works on, with a
clock that moves only when nothing is left to do.  Random numbers come from a
tape.  Passes run against the cluster, or are planned in advance with a duration
and a result each.

This module has the world and what can be done in it at once; what takes time is
in `AppOperator.Simulation.Run`.
-/

set_option autoImplicit false

namespace AppOperator

/-- Numbers between zero and one, used in turn and then again. -/
structure RandomTape where
  numbers : List Float
  used : Nat

namespace RandomTape

def ofList (numbers : List Float) : RandomTape := ⟨numbers, 0⟩

def peek (t : RandomTape) : Float :=
  (t.numbers[t.used % t.numbers.length]?).getD 0.5

def next (t : RandomTape) : RandomTape :=
  { t with used := t.used + 1 }

end RandomTape

/-- A pass that is planned: how long it takes and how it ends. -/
structure PlannedPass where
  duration : Float
  result : Except Fault PassReport

/-- The planned passes of a key; the last one is repeated. -/
structure PassPlan where
  entries : List (ObjectKey × List PlannedPass)
  fallback : PlannedPass

namespace PassPlan

def next (p : PassPlan) (key : ObjectKey) : PlannedPass × PassPlan :=
  match p.entries.find? fun entry => entry.1 == key with
  | some (_, pass :: later :: rest) =>
      (pass, { p with entries := p.entries.map fun entry =>
        if entry.1 == key then (key, later :: rest) else entry })
  | some (_, [pass]) => (pass, p)
  | _ => (p.fallback, p)

end PassPlan

/-- The start or the end of a planned pass. -/
structure PassMark where
  instant : Float
  isStart : Bool
  key : ObjectKey

/-- A part of a scripted stream: an event, or the failure that ends the stream. -/
abbrev StreamItem := Except Fault WatchEvent

/-- What watches find: scripted streams, after which the watcher stops, or streams
that stay silent until their time is over. -/
inductive Streams where
  | scripted (streams : List (List StreamItem))
  | silent

/-- What is put off in a world. -/
inductive Errand where
  | startController
  | startWatcher
  /-- a worker looks for work, or tries again after it was woken -/
  | work (worker : Nat)
  /-- a worker concludes its pass -/
  | conclude (worker : Nat) (result : Except Fault PassReport)
  /-- the loop of a kind does what it is about to do -/
  | watchLoop (kind : ResourceKind)
  /-- the stream of a kind is over -/
  | endStream (kind : ResourceKind)
  /-- the resync waits for its time -/
  | awaitResync
  /-- the time of the resync has come -/
  | resync
  /-- the server for the probes looks whether it has been asked to leave -/
  | pollProbe
  /-- a timer of the queue goes off -/
  | fire (key : ObjectKey)
  | enqueue (key : ObjectKey)
  | seed (kind : ResourceKind) (object : Json)
  /-- whoever drives the world goes on -/
  | resume
  /-- a pause is over: what waited for that is ready after all that is ready -/
  | wake (errand : Errand)

/-- An operator, its cluster, and the time. -/
structure World where
  agenda : Agenda Errand
  store : Store
  controller : Controller ObjectKey
  watcher : Watcher
  routeClass : RouteClassSource
  plan : Option PassPlan
  marks : List PassMark
  randoms : RandomTape
  streams : Streams
  /-- the keys that the watcher has asked for -/
  requested : List ObjectKey

namespace World

/-- A world at instant zero in which nothing has been started. -/
def new (controller : Controller ObjectKey) (watcher : Watcher) (routeClass : RouteClassSource)
    (randoms : RandomTape) : World where
  agenda := .empty
  store := .empty
  controller := controller
  watcher := watcher
  routeClass := routeClass
  plan := none
  marks := []
  randoms := randoms
  streams := .silent
  requested := []

def enqueue (w : World) (key : ObjectKey) : World :=
  { w with controller := w.controller.request key }

/-- Keys are still taken in. -/
def isTaking (w : World) : Bool :=
  w.controller.isTaking

/-- The watcher asks for passes. -/
def request (w : World) (keys : List ObjectKey) : World :=
  keys.foldl enqueue { w with requested := w.requested ++ keys }

/-- Runs a dialogue against the cluster. -/
def converse {α : Type} (w : World) (dialogue : ClientM α) : α × World :=
  let (value, store) := dialogue.run Store.answer w.store
  (value, { w with store := store })

/-- One pass for a key against the cluster. -/
def pass (w : World) (key : ObjectKey) : Except Fault PassReport × World :=
  w.converse (AppOperator.reconcile w.routeClass.resolve key)

/-- What `change` needs when a pass is concluded: a random number, the time and a
serial number; the random number counts as used if the pass failed. -/
def concluding (w : World) (report : PassReport)
    (change : Float → Float → Nat → Controller ObjectKey) : World :=
  let (serial, agenda) := w.agenda.takeSerial
  { w with
    controller := change w.randoms.peek agenda.now serial
    agenda := agenda
    randoms := if report.success then w.randoms else w.randoms.next }

/-- A pass for a key outside the workers; the queue must be able to hold the key. -/
def process (w : World) (key : ObjectKey) : Except Fault PassReport × World :=
  match key.usable with
  | .error fault => (.error fault, w)
  | .ok key =>
      let retryCount := w.controller.queue.failureCount key
      let (result, w) := w.pass key
      let report := PassReport.ofResult result
      (.ok report, w.concluding report (w.controller.conclude key retryCount report))

/-- Takes a key, runs a pass for it and finishes it, until no key is left or no key is
taken in; the result is the number of passes. -/
def drain (w : World) : Nat → Nat × World
  | 0 => (0, w)
  | limit + 1 =>
      if !w.isTaking || w.controller.queue.length = 0 then (0, w)
      else
        let (taken, queue) := w.controller.queue.take 0
        let w := { w with controller := { w.controller with queue := queue } }
        match taken with
        | .key key =>
            let (_, w) := w.process key
            let queue := w.controller.queue.finish key
            let (count, w) := { w with controller := { w.controller with queue := queue } }.drain limit
            (count + 1, w)
        | _ => (0, w)

/-- Lists a kind in the namespace of the watcher. -/
def listing (w : World) (kind : ResourceKind) : Listing × World :=
  let (answer, store) := w.store.list kind w.watcher.namespaceName
  (answer, { w with store := store })

/-- Lists a kind and asks for a pass for each item; the result is the version of the list. -/
def collect (w : World) (kind : ResourceKind) : Except Fault Json × World :=
  match w.listing kind with
  | (.error fault, w) => (.error fault, w)
  | (.ok (items, version), w) =>
      match keysOf w.isTaking kind items with
      | (keys, some fault) => (.error fault, w.request keys)
      | (keys, none) =>
          let w := w.request keys
          (.ok version, { w with watcher := w.watcher.markSynced kind })

/-- Handles an event outside the loops. -/
def handle (w : World) (kind : ResourceKind) (event : WatchEvent) :
    Except Fault (Option ObjectKey) × World :=
  match event.asked w.isTaking kind with
  | (keys, some fault) => (.error fault, w.request keys)
  | (keys, none) => (.ok keys.head?, w.request keys)

/-- Asks for every declaration; the result is their number. -/
def resync (w : World) : Except Fault Nat × World :=
  match w.listing .simpleApp with
  | (.error fault, w) => (.error fault, w)
  | (.ok (items, _), w) =>
      match keysOf w.isTaking .simpleApp items with
      | (keys, some fault) => (.error fault, w.request keys)
      | (keys, none) => (.ok items.length, w.request keys)

def fetch (w : World) (key : ObjectKey) : Except Fault (Option Declaration) × World :=
  w.converse (AppOperator.fetch key)

end World

end AppOperator
