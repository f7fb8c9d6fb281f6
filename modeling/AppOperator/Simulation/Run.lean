import AppOperator.Simulation.World

/-!
# Running a world

`World.next?` runs one errand, or moves the time on when no errand is ready.
Whoever drives a world lets it run for a time (`World.elapse`) or until the
workers have left (`World.stopController`); other errands are run meanwhile.
-/

set_option autoImplicit false

namespace AppOperator

namespace Errand

/-- Something that a loop of the watcher has put off. -/
def isWatch : Errand → Bool
  | .watchLoop _ | .endStream _ | .awaitResync | .resync => true
  | .wake errand => errand.isWatch
  | _ => false

def isProbe : Errand → Bool
  | .pollProbe => true
  | .wake errand => errand.isProbe
  | _ => false

/-- The driver goes on. -/
def isResume : Errand → Bool
  | .resume => true
  | _ => false

/-- The first or next turn of a worker. -/
def isWorkOf (worker : Nat) : Errand → Bool
  | .work other => other = worker
  | _ => false

end Errand

namespace World

/-- The most errands that are run in one go. -/
def limit : Nat := 1000000

def push (w : World) (errand : Errand) : World :=
  { w with agenda := w.agenda.push errand }

def pushFront (w : World) (errand : Errand) : World :=
  { w with agenda := w.agenda.pushFront errand }

/-- An errand goes on after a pause; without a pause it only lets others pass. -/
def sleep (w : World) (pause : Float) (errand : Errand) : World :=
  if pause ≤ 0 then w.push errand
  else { w with agenda := w.agenda.setAlarm pause (.wake errand) }

/-- Something is done after a pause; a pause that cannot be measured is a fault. -/
def pause (w : World) (length : Pause) (errand : Errand) : Except Fault World :=
  length.map fun seconds => w.sleep seconds errand

/-- Workers who have been woken are ready. -/
def settle (w : World) : World :=
  w.controller.queue.woken.foldl
    (fun w worker =>
      if w.agenda.ready.any (·.isWorkOf worker) then w else w.push (.work worker))
    w

/-- A mark for the start or the end of a planned pass. -/
def mark (w : World) (isStart : Bool) (key : ObjectKey) : World :=
  if w.plan.isSome then { w with marks := w.marks ++ [⟨w.agenda.now, isStart, key⟩] } else w

/-- A worker starts the pass for the key that it holds. -/
def beginPass (w : World) (worker : Nat) (key : ObjectKey) : World :=
  match w.plan with
  | none =>
      let (result, w) := w.pass key
      w.pushFront (.conclude worker result)
  | some plan =>
      let (planned, plan) := plan.next key
      let w := { w.mark true key with plan := some plan }
      if planned.duration == 0 then w.pushFront (.conclude worker planned.result)
      else w.sleep planned.duration (.conclude worker planned.result)

def work (w : World) (worker : Nat) : World :=
  let event : ControllerEvent ObjectKey :=
    match w.controller.workers[worker]? with
    | some .waiting => .wake worker
    | _ => .poll worker
  match w.controller.step? event with
  | none => w
  | some controller =>
      let w := { w with controller := controller }
      match controller.workers[worker]? with
      | some (.holding key _) => w.beginPass worker key
      | _ => w

/-- A worker concludes its pass and looks for work again. -/
def conclude (w : World) (worker : Nat) (result : Except Fault PassReport) : World :=
  match w.controller.workers[worker]? with
  | some (.holding key _) =>
      let w := w.mark false key
      let report := PassReport.ofResult result
      let w := w.concluding report fun random now serial =>
        (w.controller.step? (.conclude worker report random now serial)).getD w.controller
      w.pushFront (.work worker)
  | _ => w

/-- Something happens to the loop of a kind, which then goes on or pauses. -/
def feed (w : World) (kind : ResourceKind) (input : WatchInput) : World :=
  match w.watcher.turn w.isTaking kind input with
  | none => w
  | some (keys, watcher) =>
      let w := { w.request keys with watcher := watcher }
      match watcher.loop? kind with
      | some ⟨_, _, .pausing⟩ =>
          match w.pause watcher.pace.retryDelay (.watchLoop kind) with
          | .ok w => w
          | .error fault => { w with watcher := watcher.breakLoop kind fault }
      | _ => w.pushFront (.watchLoop kind)

/-- The loop of a kind takes what a scripted stream delivers, until it gives the
stream up. -/
def followStream (w : World) (kind : ResourceKind) : List StreamItem → World
  | [] => w.feed kind .closed
  | .error fault :: _ => w.feed kind (.failed fault)
  | .ok event :: rest =>
      match w.watcher.turn w.isTaking kind (.event event) with
      | none => w
      | some (keys, watcher) =>
          match watcher.loop? kind with
          | some ⟨_, _, .watching⟩ => { w.request keys with watcher := watcher }.followStream kind rest
          | _ => w.feed kind (.event event)

def openStream (w : World) (loop : WatchLoop) : World :=
  let (answer, store) := w.store.watch loop.kind w.watcher.namespaceName loop.position
  let w := { w with store := store }
  match answer, w.streams with
  | .error fault, _ => w.feed loop.kind (.failed fault)
  | .ok (), .scripted (stream :: rest) =>
      { w with streams := .scripted rest }.followStream loop.kind stream
  | .ok (), .scripted [] =>
      { w with watcher := { w.watcher with running := false } }.feed loop.kind .closed
  | .ok (), .silent =>
      match w.pause w.watcher.pace.watchTimeout (.endStream loop.kind) with
      | .ok w => w
      | .error fault => w.feed loop.kind (.failed fault)

/-- The loop of a kind does what it is about to do. -/
def watchOn (w : World) (kind : ResourceKind) : World :=
  match w.watcher.loop? kind with
  | none => w
  | some loop =>
      if loop.stage = .pausing then w.feed kind .rested
      else if !w.watcher.running then { w with watcher := w.watcher.endLoop kind }
      else if loop.stage = .listing then
        let (answer, w) := w.listing kind
        w.feed kind answer.input
      else if loop.stage = .watching then w.openStream loop
      else w

/-- The resync waits for its time. -/
def awaitResync (w : World) : World :=
  match w.watcher.resync with
  | .waiting =>
      match w.pause w.watcher.pace.resyncInterval .resync with
      | .ok w => w
      | .error fault => { w with watcher := w.watcher.breakResync fault }
  | _ => w

/-- How often the server for the probes looks whether it has been asked to leave. -/
def probeInterval : Float := 0.05

/-- The time of the resync has come. -/
def resyncOnce (w : World) : World :=
  let (answer, w) := w.listing .simpleApp
  let (keys, watcher) := w.watcher.resynced w.isTaking answer
  { w.request keys with watcher := watcher }.awaitResync

def perform (w : World) : Errand → World
  | .startController =>
      let w := { w with controller := w.controller.start }
      (List.range w.controller.workers.length).foldl (fun w worker => w.push (.work worker)) w
  | .startWatcher =>
      let w := { w with watcher := w.watcher.start }
      (ResourceKind.watched.foldl (fun w kind => w.push (.watchLoop kind)) w).push .awaitResync
  | .work worker => w.work worker
  | .conclude worker result => w.conclude worker result
  | .watchLoop kind => w.watchOn kind
  | .endStream kind => w.feed kind .closed
  | .awaitResync => w.awaitResync
  | .resync => w.resyncOnce
  | .pollProbe => w.sleep probeInterval .pollProbe
  | .fire key =>
      { w with controller := (w.controller.step? (.fire key)).getD w.controller }
  | .enqueue key => w.enqueue key
  | .seed kind object => { w with store := (w.store.seed kind object).2 }
  | .resume => w
  | .wake errand => w.push errand

/-- The timers of the queue as alarms. -/
def timers (w : World) : List (Alarm Errand) :=
  w.controller.queue.timers.map fun timer => ⟨timer.due, timer.serial, .fire timer.key⟩

/-- One errand, or a step in time; nothing when there is nothing to wait for. -/
def next? (w : World) : Option World :=
  match w.agenda.ready with
  | errand :: rest =>
      some ({ w with agenda := { w.agenda with ready := rest } }.perform errand).settle
  | [] => (w.agenda.advance? w.timers).map fun agenda => { w with agenda := agenda }

/-- Runs errands until a condition holds. -/
def runUntil (w : World) (holds : World → Bool) : Nat → World
  | 0 => w
  | limit + 1 =>
      if holds w then w
      else
        match w.next? with
        | none => w
        | some w => w.runUntil holds limit

/-- It is the turn of the driver. -/
def isResumed (w : World) : Bool :=
  w.agenda.ready.head?.any (·.isResume)

def elapse (w : World) (seconds : Float) : World :=
  let w := (w.settle.sleep seconds .resume).runUntil isResumed limit
  { w with agenda := { w.agenda with ready := w.agenda.ready.drop 1 } }

/-- Stops the controller and waits until its workers have left. -/
def stopController (w : World) : World :=
  ({ w with controller := w.controller.stop }.settle).runUntil (·.controller.allExited) limit

/-- Stops the watcher; what its loops have put off is dropped. -/
def stopWatcher (w : World) : World :=
  { w with watcher := w.watcher.stop, agenda := w.agenda.cancel (·.isWatch) }

/-- Starts the controller, lets some time pass and stops it; the result says
whether it was running before and after the stop. -/
def runController (w : World) (seconds : Float) : (Bool × Bool) × World :=
  let w := (w.push .startController).elapse seconds
  let before := w.controller.running
  let w := w.stopController
  ((before, w.controller.running), w)

/-- Starts the watcher, lets some time pass and stops it; the result says whether
it was in step before the stop, and whether it was running before and after, unless
a fault ended a part of it. -/
def runWatcher (w : World) (seconds : Float) : Except Fault (Bool × Bool × Bool) × World :=
  let w := (w.push .startWatcher).elapse seconds
  let synced := w.watcher.hasSynced
  let before := w.watcher.running
  let w := w.stopWatcher
  match w.watcher.fault? with
  | some fault => (.error fault, w)
  | none => (.ok (synced, before, w.watcher.running), w)

/-- Runs the loop of one kind over scripted streams until it finds none left; the
result is the time that it took, unless a fault ended the loop. -/
def followScript (w : World) (kind : ResourceKind) (streams : List (List StreamItem)) :
    Except Fault Float × World :=
  let started := w.agenda.now
  let w := { w with watcher := w.watcher.watch [kind], streams := .scripted streams }
  let left (w : World) : Bool := (w.watcher.loop? kind).all fun loop => loop.stage = .ended
  let w := (w.push (.watchLoop kind)).runUntil left limit
  let elapsed : Except Fault Float :=
    match w.watcher.fault? with
    | some fault => .error fault
    | none => .ok (w.agenda.now - started)
  (elapsed, { w with streams := .silent })

end World

end AppOperator
