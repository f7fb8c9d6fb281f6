import AppOperator.Cluster.Rest
import AppOperator.Probe.Server
import AppOperator.Settings
import AppOperator.Text.Upper
import AppOperator.Watch.Watcher

/-!
# The application

The application is put together from its settings: a client that is connected, a
controller, a watcher, and a server for the probes.  Whatever fails on the way
ends the start, and nothing is left running.

A stop goes through the parts in one order: first the loops of the watcher end,
then the workers leave, and then the client is closed.  It waits for the parts to
leave, and meanwhile all else may go on; a loop that has been asked to leave may
still be handed what was on its way.  `Application.step?` says what can happen to a
running application in any order of events.
-/

set_option autoImplicit false

namespace AppOperator

/-- The server for the probes: where it listens, and whether it has been asked to leave. -/
structure ProbeServer where
  host : String
  port : Int
  shouldExit : Bool

/-- How far an application has come. -/
inductive Stage where
  | assembled
  | running
  /-- a stop waits for the loops of the watcher -/
  | leavingWatches
  /-- a stop waits for the workers -/
  | leavingWorkers
  | stopped
deriving DecidableEq, Repr

structure Application where
  client : RestClient
  controller : Controller ObjectKey
  watcher : Watcher
  probe : Option ProbeServer
  stage : Stage

/-- The attempt to put an application together: the client, if it came to that,
and the application or what was in the way. -/
structure Assembly where
  client : Option RestClient
  outcome : Except Fault Application

def logLevels : List String :=
  ["CRITICAL", "FATAL", "ERROR", "WARN", "WARNING", "INFO", "DEBUG", "NOTSET"]

/-- A level is named in any case of its letters. -/
def checkLogLevel (name : String) : Except Fault Unit :=
  let level := Text.upper name
  if level ∈ logLevels then .ok ()
  else .error (.badValue ("Unknown level: " ++ Text.quoted level))

def RestClient.ofSettings (settings : ClusterSettings) : RestClient :=
  .new settings.apiUrl settings.token settings.caFile settings.verifySsl settings.requestTimeout

namespace Application

/-- The application runs and no stop has been asked for. -/
def isRunning (a : Application) : Bool :=
  a.stage = .running

/-- What the probes of the application know. -/
def probeView (a : Application) : ProbeView :=
  ⟨a.controller, some a.watcher.hasSynced⟩

/-- The parts other than the client. -/
def assembleWith (settings : Settings) (client : RestClient) : Except Fault Application := do
  let controller ← Controller.new settings.controller
  let pace : WatchPace :=
    { WatchPace.default with resyncInterval := .ofInt settings.controller.reconcileInterval }
  let probe : Option ProbeServer :=
    if settings.probes.enabled then some ⟨settings.probes.host, settings.probes.port, false⟩
    else none
  return ⟨client, controller, .new settings.cluster.watchNamespace pace, probe, .assembled⟩

/-- Puts an application together; how the client connects is given. -/
def assemble (settings : Settings) (connect : RestClient → Except Fault RestClient) : Assembly :=
  match checkLogLevel settings.probes.logLevel with
  | .error fault => ⟨none, .error fault⟩
  | .ok () =>
      let client := RestClient.ofSettings settings.cluster
      ⟨some client, do assembleWith settings (← connect client)⟩

def start (a : Application) : Application :=
  { a with controller := a.controller.start, watcher := a.watcher.start, stage := .running }

/-- Asks for a stop; while one is under way or done, nothing more happens. -/
def stop (a : Application) : Application :=
  if a.isRunning then { a with stage := .leavingWatches, watcher := a.watcher.cancel } else a

/-- The loop of a kind leaves once it has been asked to. -/
def leave? (a : Application) (kind : ResourceKind) : Option Application :=
  if !a.watcher.running && a.watcher.watches kind then
    some { a with watcher := a.watcher.endLoop kind }
  else none

/-- The resync leaves once it has been asked to. -/
def leaveResync? (a : Application) : Option Application :=
  if !a.watcher.running && a.watcher.resync = .waiting then
    some { a with watcher := a.watcher.endResync }
  else none

/-- The loops of the watcher have ended; no further work is taken in. -/
def leaveWork (a : Application) : Application :=
  { a with stage := .leavingWorkers, controller := a.controller.stop }

/-- The workers have left; the probes are no longer served and the client is closed. -/
def close (a : Application) : Application :=
  { a with
    stage := .stopped
    probe := a.probe.map fun server => { server with shouldExit := true }
    client := a.client.close }

/-- A stop that is under way goes on when what it waits for has come. -/
def proceed? (a : Application) : Option Application :=
  match a.stage with
  | .leavingWatches => if a.watcher.hasEnded then some a.leaveWork else none
  | .leavingWorkers => if a.controller.allExited then some a.close else none
  | _ => none

def enqueueAll (a : Application) (keys : List ObjectKey) : Application :=
  { a with controller := keys.foldl Controller.request a.controller }

end Application

/-- Who makes calls to the cluster. -/
inductive Caller where
  | loop (kind : ResourceKind)
  | resync
  /-- a worker, in a pass -/
  | worker (index : Nat)
deriving DecidableEq

/-- Who is at something that makes calls: a loop that lists or watches, a resync that has not
ended, a worker with a pass. -/
def Application.canCall (a : Application) : Caller → Bool
  | .loop kind =>
      (a.watcher.loop? kind).any fun loop => loop.stage = .listing || loop.stage = .watching
  | .resync => a.watcher.resync = .waiting
  | .worker index => (a.controller.workers[index]?.bind Worker.held?).isSome

/-- What can happen to a running application. -/
inductive ApplicationEvent where
  /-- a call is made, whether or not the client is still open -/
  | call (caller : Caller)
  | watch (kind : ResourceKind) (input : WatchInput)
  | resync (answer : Listing)
  | leave (kind : ResourceKind)
  | leaveResync
  | poll (worker : Nat)
  | wake (worker : Nat)
  | conclude (worker : Nat) (report : PassReport) (random now : Float) (serial : Nat)
  | fire (key : ObjectKey)
  | stop
  | proceed

namespace ApplicationEvent

/-- What an event of a worker or a timer is to the controller. -/
def toController? : ApplicationEvent → Option (ControllerEvent ObjectKey)
  | .poll worker => some (.poll worker)
  | .wake worker => some (.wake worker)
  | .conclude worker report random now serial => some (.conclude worker report random now serial)
  | .fire key => some (.fire key)
  | _ => none

/-- The event is a call to the cluster or the answer to one, or concludes a pass that makes
calls. -/
def usesCluster : ApplicationEvent → Bool
  | .call _ | .watch .. | .resync _ | .conclude .. => true
  | _ => false

end ApplicationEvent

namespace Application

/-- The state after an event, if the event can happen. -/
def step? (a : Application) (event : ApplicationEvent) : Option Application :=
  match event with
  | .watch kind input =>
      (a.watcher.turn a.controller.isTaking kind input).map fun taken =>
        { a with watcher := taken.2 }.enqueueAll taken.1
  | .resync answer =>
      match a.watcher.resync with
      | .waiting =>
          let taken := a.watcher.resynced a.controller.isTaking answer
          some ({ a with watcher := taken.2 }.enqueueAll taken.1)
      | _ => none
  | .call caller => if a.canCall caller then some a else none
  | .leave kind => a.leave? kind
  | .leaveResync => a.leaveResync?
  | .stop => some a.stop
  | .proceed => a.proceed?
  | event =>
      event.toController?.bind fun event =>
        (a.controller.step? event).map fun controller => { a with controller := controller }

/-- The state after a list of events, if each can happen in its turn. -/
def run? (a : Application) : List ApplicationEvent → Option Application
  | [] => some a
  | event :: rest => (a.step? event).bind fun after => after.run? rest

end Application

end AppOperator
