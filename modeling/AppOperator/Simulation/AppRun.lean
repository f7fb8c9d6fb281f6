import AppOperator.Application
import AppOperator.Simulation.Run

/-!
# An application in virtual time

The application is put together from an environment, runs against the cluster in
memory for some time, and is stopped; a fault of the watcher stops it earlier.
-/

set_option autoImplicit false

namespace AppOperator

/-- What an application starts from. -/
structure AppSetting where
  env : Environment
  /-- the objects that are there at the start -/
  seeds : List (ResourceKind × Json)
  /-- objects that come later, with their instants -/
  later : List (Float × ResourceKind × Json)
  /-- what keeps the client from connecting -/
  connectFault : Option Fault
  /-- how long the application runs before it is asked to stop -/
  seconds : Float
  randoms : RandomTape

/-- What is left of an application. -/
structure AppReport where
  /-- the settings, unless they could not be read -/
  settings : Option Settings
  /-- the client was made -/
  hasClient : Bool
  /-- the application, unless it could not be put together -/
  application : Option Application
  /-- it was running when it was asked to stop -/
  wasRunning : Bool
  /-- the fault that ended it -/
  fault : Option Fault
  store : Store

namespace AppSetting

def store (s : AppSetting) : Store :=
  s.seeds.foldl (fun store seed => (store.seed seed.1 seed.2).2) .empty

/-- The client connects, unless something is in the way. -/
def connect (s : AppSetting) (client : RestClient) : Except Fault RestClient :=
  match s.connectFault with
  | some fault => .error fault
  | none => .ok { client with connected := true }

def inWorld (a : Application) (w : World) : Application :=
  { a with controller := w.controller, watcher := w.watcher }

def stop (a : Application) (w : World) : Application × World :=
  let a := (inWorld a w).stop
  let w := { w with watcher := a.watcher.stop, agenda := w.agenda.cancel (·.isWatch) }
  let a := a.leaveWork
  let w := ({ w with controller := a.controller }.settle).runUntil (·.controller.allExited)
    World.limit
  ((inWorld a w).close, { w with agenda := w.agenda.cancel (·.isProbe) })

/-- The world at the start of an application. -/
def world (s : AppSetting) (a : Application) : World :=
  let w := World.new a.controller a.watcher (.envVariable RouteClassSource.variableName s.env)
    s.randoms
  let w := { w with store := s.store }
  s.later.foldl (fun w (due, kind, object) =>
    { w with agenda := w.agenda.setAlarm due (.seed kind object) }) w

def runApplication (s : AppSetting) (a : Application) :
    Bool × Option Fault × Application × World :=
  let a := { a with stage := .running }
  let w := ((s.world a).push .startController).push .startWatcher
  let w := (if a.probe.isSome then w.push .pollProbe else w).sleep s.seconds .resume
  let w := w.runUntil (fun w => w.isResumed || w.watcher.fault?.isSome) World.limit
  match w.watcher.fault? with
  | none =>
      let (a, w) := stop a w
      (true, none, a, w)
  | some fault =>
      let (a, w) := stop a (w.runUntil (fun w => w.agenda.ready.isEmpty || w.isResumed) World.limit)
      (false, some fault, a, w.runUntil World.isResumed World.limit)

/-- Runs an application from its environment to its end. -/
def run (s : AppSetting) : AppReport :=
  match Settings.ofEnvironment s.env .none with
  | .error fault => ⟨none, false, none, false, some fault, s.store⟩
  | .ok settings =>
      let assembly := Application.assemble settings s.connect
      match assembly.outcome with
      | .error fault =>
          ⟨some settings, assembly.client.isSome, none, false, some fault, s.store⟩
      | .ok a =>
          let (running, fault, a, w) := s.runApplication a
          ⟨some settings, true, some a, running, fault, w.store⟩

end AppSetting

end AppOperator
