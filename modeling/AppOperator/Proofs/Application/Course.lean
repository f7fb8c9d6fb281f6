import AppOperator.Application
import AppOperator.Proofs.Controller.Stopping

/-!
# The course of an application

What happens to an application happens to its controller as events of the controller, so that
the controller of an application that has been started is one that can be come to.
-/

set_option autoImplicit false

namespace AppOperator

namespace Controller

theorem run?_append {κ : Type} [BEq κ] (c : Controller κ) (first second : List (ControllerEvent κ)) :
    c.run? (first ++ second) = (c.run? first).bind fun middle => middle.run? second := by
  induction first generalizing c with
  | nil => rfl
  | cons event rest ih =>
      simp only [List.cons_append, run?]
      cases c.step? event with
      | none => rfl
      | some after => exact ih after

theorem run?_singleton {κ : Type} [BEq κ] (c : Controller κ) (event : ControllerEvent κ) :
    c.run? [event] = c.step? event := by
  simp [run?]

theorem allExited_of_new {κ : Type} [BEq κ] {settings : ControllerSettings} {c : Controller κ}
    (fresh : new settings = .ok c) : c.allExited = true := by
  unfold new at fresh
  split at fresh
  · cases fresh
  · split at fresh
    · cases fresh
    · cases fresh
      rfl

/-- The requests that reach the queue: keys that it refuses are not among them. -/
def requests (c : Controller ObjectKey) (keys : List ObjectKey) :
    List (ControllerEvent ObjectKey) :=
  (keys.filter fun key => (key.refusal? c.isTaking).isNone).map .enqueue

theorem isTaking_enqueue (c : Controller ObjectKey) (key : ObjectKey) :
    (c.enqueue key).isTaking = c.isTaking := by
  simp [isTaking, enqueue]

theorem run?_requests (c : Controller ObjectKey) (keys : List ObjectKey) :
    c.run? (c.requests keys) = some (keys.foldl request c) := by
  induction keys generalizing c with
  | nil => rfl
  | cons key rest ih =>
      rw [List.foldl_cons]
      cases refused : key.refusal? c.isTaking with
      | some fault =>
          have same : c.request key = c := by simp [request, refused]
          have skipped : c.requests (key :: rest) = c.requests rest := by simp [requests, refused]
          rw [same, skipped]
          exact ih c
      | none =>
          have asked : c.request key = c.enqueue key := by simp [request, refused]
          have first : c.requests (key :: rest) =
              .enqueue key :: (c.enqueue key).requests rest := by
            simp [requests, refused, isTaking_enqueue]
          rw [asked, first]
          exact ih (c.enqueue key)

end Controller

namespace Application

variable {a after : Application} {event : ApplicationEvent}

/-! ## What an event does -/

/-- The events that can happen to an application, with what follows. -/
inductive Steps (a : Application) : ApplicationEvent → Application → Prop where
  | called (caller : Caller) (can : a.canCall caller = true) : Steps a (.call caller) a
  | turned (kind : ResourceKind) (input : WatchInput) (keys : List ObjectKey) (watcher : Watcher)
      (turns : a.watcher.turn a.controller.isTaking kind input = some (keys, watcher)) :
      Steps a (.watch kind input) ({ a with watcher := watcher }.enqueueAll keys)
  | resynced (answer : Listing) (waiting : a.watcher.resync = .waiting) :
      Steps a (.resync answer)
        ({ a with watcher := (a.watcher.resynced a.controller.isTaking answer).2 }.enqueueAll
          (a.watcher.resynced a.controller.isTaking answer).1)
  | left (kind : ResourceKind) (cancelled : a.watcher.running = false) :
      Steps a (.leave kind) { a with watcher := a.watcher.endLoop kind }
  | resyncLeft (cancelled : a.watcher.running = false) :
      Steps a .leaveResync { a with watcher := a.watcher.endResync }
  | stopAsked (running : a.stage = .running) :
      Steps a .stop { a with stage := .leavingWatches, watcher := a.watcher.cancel }
  | stopIgnored (notRunning : a.stage ≠ .running) : Steps a .stop a
  | watchesLeft (stage : a.stage = .leavingWatches) (ended : a.watcher.hasEnded = true) :
      Steps a .proceed a.leaveWork
  | closed (stage : a.stage = .leavingWorkers) (exited : a.controller.allExited = true) :
      Steps a .proceed a.close
  | worked (event : ApplicationEvent) (turn : ControllerEvent ObjectKey)
      (controller : Controller ObjectKey) (isTurn : event.toController? = some turn)
      (steps : a.controller.step? turn = some controller) :
      Steps a event { a with controller := controller }

theorem steps_of_proceed? (step : a.proceed? = some after) : Steps a .proceed after := by
  unfold proceed? at step
  split at step
  · next stage =>
      split at step
      · next ended =>
          cases step
          exact .watchesLeft stage ended
      · cases step
  · next stage =>
      split at step
      · next exited =>
          cases step
          exact .closed stage exited
      · cases step
  · cases step

theorem steps_of_step? (step : a.step? event = some after) : Steps a event after := by
  have worked : ∀ turn, event.toController? = some turn →
      (event.toController?.bind fun turn => (a.controller.step? turn).map fun controller =>
        ({ a with controller := controller } : Application)) = some after → Steps a event after := by
    intro turn isTurn step
    rw [isTurn, Option.bind_some, Option.map_eq_some_iff] at step
    obtain ⟨controller, steps, rfl⟩ := step
    exact .worked event turn controller isTurn steps
  cases event with
  | call caller =>
      simp only [step?] at step
      split at step
      · next can =>
          cases step
          exact .called caller can
      · cases step
  | watch kind input =>
      simp only [step?, Option.map_eq_some_iff] at step
      obtain ⟨⟨keys, watcher⟩, turns, rfl⟩ := step
      exact .turned kind input keys watcher turns
  | resync answer =>
      simp only [step?] at step
      split at step
      · next waiting =>
          cases step
          exact .resynced answer waiting
      · cases step
  | leave kind =>
      simp only [step?, leave?] at step
      split at step
      · next may =>
          cases step
          simp only [Bool.and_eq_true, Bool.not_eq_true'] at may
          exact .left kind may.1
      · cases step
  | leaveResync =>
      simp only [step?, leaveResync?] at step
      split at step
      · next may =>
          cases step
          simp only [Bool.and_eq_true, Bool.not_eq_true'] at may
          exact .resyncLeft may.1
      · cases step
  | stop =>
      simp only [step?, stop, isRunning, decide_eq_true_eq] at step
      split at step
      · next running =>
          cases step
          exact .stopAsked running
      · next notRunning =>
          cases step
          exact .stopIgnored notRunning
  | proceed => exact steps_of_proceed? step
  | poll worker => exact worked _ rfl step
  | wake worker => exact worked _ rfl step
  | conclude worker report random now serial => exact worked _ rfl step
  | fire key => exact worked _ rfl step

/-! ## What happens to the controller -/

/-- What an event asks of the controller. -/
def controllerEvents (a : Application) : ApplicationEvent → List (ControllerEvent ObjectKey)
  | .watch kind input =>
      match a.watcher.turn a.controller.isTaking kind input with
      | some (keys, _) => a.controller.requests keys
      | none => []
  | .resync answer => a.controller.requests (a.watcher.resynced a.controller.isTaking answer).1
  | .proceed => if a.stage = .leavingWatches then [.stop] else []
  | event => event.toController?.toList

theorem run?_of_step? (step : a.step? event = some after) :
    a.controller.run? (a.controllerEvents event) = some after.controller := by
  cases steps_of_step? step with
  | called | left | resyncLeft | stopAsked | stopIgnored => rfl
  | turned kind input keys watcher turns =>
      simp only [controllerEvents, turns]
      exact a.controller.run?_requests keys
  | resynced answer waiting => exact a.controller.run?_requests _
  | watchesLeft stage ended =>
      simp only [controllerEvents, stage, if_true]
      rfl
  | closed stage exited =>
      simp only [controllerEvents, stage]
      rfl
  | worked _ turn controller isTurn steps =>
      have asked : a.controllerEvents event = [turn] := by
        cases event <;> cases isTurn <;> rfl
      rw [asked, Controller.run?_singleton]
      exact steps

/-- What a list of events asks of the controller, as far as they can happen. -/
def controllerCourse (a : Application) : List ApplicationEvent → List (ControllerEvent ObjectKey)
  | [] => []
  | event :: rest =>
      match a.step? event with
      | some after => a.controllerEvents event ++ after.controllerCourse rest
      | none => []

theorem run?_controllerCourse {events : List ApplicationEvent} (run : a.run? events = some after) :
    a.controller.run? (a.controllerCourse events) = some after.controller := by
  induction events generalizing a with
  | nil =>
      cases run
      rfl
  | cons event rest ih =>
      obtain ⟨middle, step, run⟩ := Option.bind_eq_some_iff.mp run
      simp only [controllerCourse, step]
      rw [Controller.run?_append, run?_of_step? step]
      exact ih run

theorem parts_of_assembled {settings : Settings} {client : RestClient}
    (assembled : assembleWith settings client = .ok a) :
    Controller.new settings.controller = .ok a.controller ∧ a.client = client ∧
      ∃ pace, a.watcher = .new settings.cluster.watchNamespace pace := by
  unfold assembleWith at assembled
  cases made : (Controller.new settings.controller : Except Fault (Controller ObjectKey)) with
  | error fault =>
      rw [made] at assembled
      cases assembled
  | ok controller =>
      rw [made] at assembled
      cases assembled
      exact ⟨rfl, rfl, _, rfl⟩

theorem reached_of_run? {settings : Settings} {client : RestClient}
    {events : List ApplicationEvent} (assembled : assembleWith settings client = .ok a)
    (run : a.start.run? events = some after) :
    Controller.Reached settings.controller after.controller
      (a.start.controller.trace (a.start.controllerCourse events)) := by
  obtain ⟨fresh, -⟩ := parts_of_assembled assembled
  have started := Controller.Reached.start (.new fresh) (Controller.allExited_of_new fresh)
  exact Controller.reached_of_run? started _ (run?_controllerCourse run)

def sampleSettings : Settings :=
  ⟨.default, ⟨300, 2, 100, ⟨1, 300, 0⟩⟩, ⟨false, "", 0, "INFO"⟩⟩

def listedDeclaration (name : String) : Json :=
  .obj [("metadata", .obj [("name", .str name)])]

end Application

end AppOperator
