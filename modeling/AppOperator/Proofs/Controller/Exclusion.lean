import AppOperator.Controller
import AppOperator.Proofs.Queue.Consistency
import Mathlib.Data.List.Perm.Basic

/-!
# One pass for each key

The reachable states of a controller with any number of workers, together with
the log of what was asked for, started and ended on the way.  In all of them the
keys that workers hold are the keys that the queue counts as held, and no two of
them agree; so the queue never hands out a key that somebody still holds.
-/

set_option autoImplicit false

namespace AppOperator

/-- An entry of the log of a controller. -/
inductive Note (κ : Type) where
  | asked (key : κ)
  | started (key : κ)
  | ended (key : κ) (success : Bool)
deriving DecidableEq, Repr

namespace Controller

variable {κ : Type}

/-- The keys that workers hold. -/
def held (c : Controller κ) : List κ :=
  c.workers.filterMap Worker.held?

/-- The pass that a worker has just started, if it has got a key. -/
def startedBy (c : Controller κ) (index : Nat) : List (Note κ) :=
  match c.workers[index]? with
  | some (.holding key _) => [.started key]
  | _ => []

/-- What is noted of an event that leads from one state to the next. -/
def notes (c : Controller κ) (event : ControllerEvent κ) (after : Controller κ) :
    List (Note κ) :=
  match event with
  | .enqueue key => [.asked key]
  | .poll index => after.startedBy index
  | .wake index => after.startedBy index
  | .conclude index report _ _ _ =>
      match c.workers[index]? with
      | some (.holding key _) => [.ended key report.success]
      | _ => []
  | .fire _ => []
  | .stop => []

variable [BEq κ]

/-- A worker that has asked the queue starts a pass if it got a key. -/
theorem startedBy_give {c : Controller κ} {index : Nat} (bound : index < c.workers.length)
    (taken : Taken κ × WorkQueue κ) :
    (c.give index taken).startedBy index =
      match taken.1 with
      | .key key => [.started key]
      | _ => [] := by
  obtain ⟨answer, queue⟩ := taken
  cases answer <;> simp [startedBy, give, setWorker, bound]

/-- The states that a controller can come to, with the log of the way there.  It is
started while it has no workers, or none that is still there. -/
inductive Reached (settings : ControllerSettings) : Controller κ → List (Note κ) → Prop where
  | new {c : Controller κ} (fresh : Controller.new settings = .ok c) : Reached settings c []
  | start {c : Controller κ} {log : List (Note κ)} (reached : Reached settings c log)
      (idle : c.allExited = true) : Reached settings c.start log
  | step {c after : Controller κ} {log : List (Note κ)} {event : ControllerEvent κ}
      (reached : Reached settings c log) (step : c.step? event = some after) :
      Reached settings after (log ++ c.notes event after)

/-- What is noted of a list of events, as far as they can happen. -/
def trace (c : Controller κ) : List (ControllerEvent κ) → List (Note κ)
  | [] => []
  | event :: rest =>
      match c.step? event with
      | some after => c.notes event after ++ after.trace rest
      | none => []

/-- Every run leads to a state that can be come to. -/
theorem reached_of_run? {settings : ControllerSettings} {c after : Controller κ}
    {log : List (Note κ)} (reached : Reached settings c log) (events : List (ControllerEvent κ))
    (run : c.run? events = some after) : Reached settings after (log ++ c.trace events) := by
  induction events generalizing c log with
  | nil =>
      cases Option.some.inj run
      rw [trace, List.append_nil]
      exact reached
  | cons event rest ih =>
      obtain ⟨middle, step, run⟩ := Option.bind_eq_some_iff.mp run
      have later := ih (reached.step step) run
      rw [List.append_assoc] at later
      simp only [trace, step]
      exact later

/-! ## What an event does -/

/-- The events that can happen to a controller, with what follows. -/
inductive Steps (c : Controller κ) : ControllerEvent κ → Controller κ → Prop where
  | asked (key : κ) : Steps c (.enqueue key) (c.enqueue key)
  | left (index : Nat) (ready : c.workers[index]? = some .ready) :
      Steps c (.poll index) (c.setWorker index .exited)
  | polled (index : Nat) (ready : c.workers[index]? = some .ready) :
      Steps c (.poll index) (c.give index (c.queue.take index))
  | woken (index : Nat) (waiting : c.workers[index]? = some .waiting) :
      Steps c (.wake index) (c.give index (c.queue.retake index))
  | concluded (index : Nat) (key : κ) (retryCount : Nat) (report : PassReport)
      (random now : Float) (serial : Nat)
      (holding : c.workers[index]? = some (.holding key retryCount)) :
      Steps c (.conclude index report random now serial)
        ({ c.conclude key retryCount report random now serial with
            queue := (c.conclude key retryCount report random now serial).queue.finish key
          }.setWorker index .ready)
  | fired (key : κ) (armed : c.queue.isArmed key = true) :
      Steps c (.fire key) { c with queue := c.queue.fire key }
  | stopped : Steps c .stop c.stop

theorem steps_of_step? {c after : Controller κ} {event : ControllerEvent κ}
    (step : c.step? event = some after) : Steps c event after := by
  cases event with
  | enqueue key =>
      cases Option.some.inj step
      exact .asked key
  | poll index =>
      simp only [step?] at step
      split at step
      · next ready =>
          split at step
          · cases Option.some.inj step
            exact .polled index ready
          · cases Option.some.inj step
            exact .left index ready
      · cases step
  | wake index =>
      simp only [step?] at step
      split at step
      · next waiting =>
          split at step
          · cases Option.some.inj step
            exact .woken index waiting
          · cases step
      · cases step
  | conclude index report random now serial =>
      simp only [step?] at step
      split at step
      · next key retryCount holding =>
          cases Option.some.inj step
          exact .concluded index key retryCount report random now serial holding
      · cases step
  | fire key =>
      simp only [step?] at step
      split at step
      · next armed =>
          cases Option.some.inj step
          exact .fired key armed
      · cases step
  | stop =>
      cases Option.some.inj step
      exact .stopped

/-! ## The keys that workers hold -/

/-- The keys that the workers other than one hold. -/
def heldByOthers (c : Controller κ) (index : Nat) : List κ :=
  (c.workers.eraseIdx index).filterMap Worker.held?

omit [BEq κ] in
theorem held_perm {c : Controller κ} {index : Nat} {worker : Worker κ}
    (here : c.workers[index]? = some worker) :
    c.held.Perm (worker.held?.toList ++ c.heldByOthers index) := by
  obtain ⟨bound, same⟩ := List.getElem?_eq_some_iff.mp here
  have perm := List.getElem_cons_eraseIdx_perm bound
  rw [same] at perm
  have filtered := (perm.filterMap Worker.held?).symm
  cases holds : worker.held? with
  | none => rwa [List.filterMap_cons_none holds] at filtered
  | some key => rwa [List.filterMap_cons_some holds] at filtered

omit [BEq κ] in
theorem held_setWorker_perm {c : Controller κ} {index : Nat} {worker : Worker κ}
    (here : c.workers[index]? = some worker) (new : Worker κ) :
    (c.setWorker index new).held.Perm (new.held?.toList ++ c.heldByOthers index) := by
  obtain ⟨bound, -⟩ := List.getElem?_eq_some_iff.mp here
  have there : (c.setWorker index new).workers[index]? = some new := by
    simp [setWorker, bound]
  have others : (c.setWorker index new).heldByOthers index = c.heldByOthers index := by
    simp only [heldByOthers, setWorker, List.eraseIdx_set_eq]
  rw [← others]
  exact held_perm there

/-- Queue and workers agree on what is held. -/
structure Coherent (c : Controller κ) : Prop where
  queue : c.queue.Consistent
  held : c.held.Perm c.queue.processing

namespace Coherent

variable {c : Controller κ}

theorem contains_held (coherent : c.Coherent) (key : κ) :
    c.held.contains key = c.queue.processing.contains key :=
  coherent.held.contains_eq

/-- The workers stay, and the queue counts the same keys as held. -/
theorem of_queue (coherent : c.Coherent) {after : Controller κ}
    (consistent : after.queue.Consistent)
    (processing : after.queue.processing = c.queue.processing)
    (workers : after.workers = c.workers) : after.Coherent := by
  refine ⟨consistent, ?_⟩
  have held : after.held = c.held := by rw [Controller.held, workers, Controller.held]
  rw [held, processing]
  exact coherent.held

/-- A worker that holds nothing turns into another one that holds nothing. -/
theorem setWorker (coherent : c.Coherent) {index : Nat} {worker new : Worker κ}
    (here : c.workers[index]? = some worker) (free : worker.held? = none)
    (stillFree : new.held? = none) : (c.setWorker index new).Coherent := by
  refine ⟨coherent.queue, ?_⟩
  have before := held_perm here
  have after := held_setWorker_perm here new
  rw [free] at before
  rw [stillFree] at after
  exact (after.trans before.symm).trans coherent.held

variable [EquivBEq κ]

theorem distinct (coherent : c.Coherent) : Distinct c.held :=
  coherent.queue.processingDistinct.perm coherent.held.symm

/-- A worker that holds nothing asks the queue. -/
theorem give (coherent : c.Coherent) {index : Nat} {worker : Worker κ}
    (here : c.workers[index]? = some worker) (free : worker.held? = none) :
    (c.give index (c.queue.take index)).Coherent := by
  have consistent := coherent.queue.take index
  obtain ⟨-, same⟩ | ⟨key, rest, head, same⟩ | ⟨rest, -, same⟩ := c.queue.take_cases index
  · rw [same] at consistent ⊢
    have blocked : ({ c with queue := { c.queue with
        blocked := c.queue.blocked ++ [index] } } : Controller κ).Coherent :=
      coherent.of_queue consistent rfl rfl
    exact blocked.setWorker here free rfl
  · rw [same] at consistent ⊢
    refine ⟨consistent, ?_⟩
    have unheld := coherent.queue.not_held_of_head head
    have before := held_perm here
    rw [free] at before
    let handed : Controller κ := { c with queue := { c.queue with
      inner := rest
      dirty := c.queue.dirty.filter (· != key)
      processing := c.queue.processing.filter (· != key) ++ [key] } }
    have after := held_setWorker_perm (c := handed) here
      (.holding key (handed.queue.failureCount key))
    change (handed.setWorker index (.holding key (handed.queue.failureCount key))).held.Perm
      (c.queue.processing.filter (· != key) ++ [key])
    rw [filter_ne_of_not_contains unheld]
    have joined : (key :: c.heldByOthers index).Perm (key :: c.queue.processing) :=
      (before.symm.trans coherent.held).cons key
    exact (after.trans joined).trans (List.perm_append_singleton _ _).symm
  · rw [same] at consistent ⊢
    have sent : ({ c with queue := { c.queue with
        inner := rest }.put .marker } : Controller κ).Coherent :=
      coherent.of_queue consistent (WorkQueue.put_processing _ _) rfl
    exact sent.setWorker here free rfl

/-- A worker ends its pass; its key is held no longer. -/
theorem release (coherent : c.Coherent) {index : Nat} {key : κ} {retryCount : Nat}
    (holding : c.workers[index]? = some (.holding key retryCount)) :
    ({ c with queue := c.queue.finish key }.setWorker index .ready).Coherent := by
  have before := held_perm holding
  have apart : (c.heldByOthers index).contains key = false := by
    have distinct := coherent.distinct.perm (before.trans (List.perm_append_singleton _ _).symm)
    exact ((distinct_concat _ _).mp distinct).2
  have taken : c.queue.processing.contains key = true := by
    rw [← coherent.contains_held, before.contains_eq]
    simp [Worker.held?]
  refine ⟨coherent.queue.finish taken, ?_⟩
  have after := held_setWorker_perm (c := { c with queue := c.queue.finish key }) holding .ready
  change ({ c with queue := c.queue.finish key }.setWorker index .ready).held.Perm
    (c.queue.finish key).processing
  have rest : ((key :: c.heldByOthers index).filter (· != key)).Perm
      (c.queue.processing.filter (· != key)) :=
    (before.symm.trans coherent.held).filter _
  rw [List.filter_cons_of_neg (by simp [bne]), filter_ne_of_not_contains apart] at rest
  rw [WorkQueue.finish_processing]
  exact after.trans rest

theorem conclude (coherent : c.Coherent) {index : Nat} {key : κ} {retryCount : Nat}
    (holding : c.workers[index]? = some (.holding key retryCount)) (report : PassReport)
    (random now : Float) (serial : Nat) :
    ({ c.conclude key retryCount report random now serial with
        queue := (c.conclude key retryCount report random now serial).queue.finish key
      }.setWorker index .ready).Coherent := by
  have concluded : (c.conclude key retryCount report random now serial).Coherent := by
    unfold Controller.conclude
    split
    · exact coherent.of_queue (coherent.queue.forget key) rfl rfl
    · exact coherent.of_queue (coherent.queue.addRateLimited _ _ _ _ _)
        (WorkQueue.addAfter_processing _ _ _ _ _) rfl
  exact concluded.release holding

end Coherent

theorem coherent_step {c after : Controller κ} {event : ControllerEvent κ} [EquivBEq κ]
    (coherent : c.Coherent) (step : c.step? event = some after) : after.Coherent := by
  cases steps_of_step? step with
  | asked key => exact coherent.of_queue (coherent.queue.add key) (WorkQueue.add_processing _ _) rfl
  | left index ready => exact coherent.setWorker ready rfl rfl
  | polled index ready => exact coherent.give ready rfl
  | woken index waiting =>
      have again : ({ c with queue := { c.queue with
          woken := c.queue.woken.erase index } } : Controller κ).Coherent :=
        coherent.of_queue (coherent.queue.congr rfl rfl rfl rfl) rfl rfl
      exact again.give waiting rfl
  | concluded index key retryCount report random now serial holding =>
      exact coherent.conclude holding report random now serial
  | fired key armed =>
      exact coherent.of_queue (coherent.queue.fire key) (WorkQueue.add_processing _ _) rfl
  | stopped =>
      exact coherent.of_queue coherent.queue.shutdown (WorkQueue.shutdown_processing _) rfl

/-- Queue and workers agree in every state that a controller can come to. -/
theorem coherent_of_reached [EquivBEq κ] {settings : ControllerSettings} {c : Controller κ}
    {log : List (Note κ)} (reached : Reached settings c log) : c.Coherent := by
  induction reached with
  | new fresh =>
      simp only [Controller.new] at fresh
      split at fresh
      · cases fresh
      · split at fresh
        · cases fresh
        · cases Except.ok.inj fresh
          exact ⟨WorkQueue.consistent_empty, List.Perm.refl _⟩
  | @start c log reached idle coherent =>
      have nobody : c.held = [] := by
        apply List.filterMap_eq_nil_iff.mpr
        intro worker member
        have gone := List.all_eq_true.mp idle worker member
        cases worker <;> simp_all [Worker.hasExited, Worker.held?]
      have nothing := coherent.held
      rw [nobody] at nothing
      refine ⟨coherent.queue, ?_⟩
      have newcomers : c.start.held = [] := by
        simp [held, Controller.start, Worker.held?]
      rw [newcomers]
      exact nothing
  | step reached step coherent => exact coherent_step coherent step

/-- At any time the keys that workers hold are all different, they are exactly the
keys that the queue counts as held, and the queue hands out none of them, neither to
a caller who comes nor to one who was woken. -/
theorem held_keys_are_exclusive [EquivBEq κ] {settings : ControllerSettings} {c : Controller κ}
    {log : List (Note κ)} (reached : Reached settings c log) :
    Distinct c.held ∧ c.held.Perm c.queue.processing ∧
      ∀ (caller : Nat) (key : κ),
        (c.queue.take caller).1 = .key key ∨ (c.queue.retake caller).1 = .key key →
        c.held.contains key = false := by
  have coherent := coherent_of_reached reached
  refine ⟨coherent.distinct, coherent.held, ?_⟩
  have taken : ∀ (q : WorkQueue κ) (caller : Nat) (key : κ), q.Consistent →
      q.processing = c.queue.processing → (q.take caller).1 = .key key →
      c.held.contains key = false := by
    intro q caller key consistent processing given
    obtain ⟨-, same⟩ | ⟨first, rest, head, same⟩ | ⟨rest, -, same⟩ := q.take_cases caller
    · rw [same] at given
      cases given
    · rw [same] at given
      cases given
      rw [coherent.contains_held, ← processing]
      exact consistent.not_held_of_head head
    · rw [same] at given
      cases given
  intro caller key given
  rcases given with given | given
  · exact taken c.queue caller key coherent.queue rfl given
  · let again : WorkQueue κ := { c.queue with woken := c.queue.woken.erase caller }
    exact taken again caller key (coherent.queue.congr rfl rfl rfl rfl) rfl given

/-- Two workers hold keys, and a key that is held has been asked for again. -/
theorem held_keys_are_exclusive_of_two_workers :
    ∃ (c : Controller Nat) (log : List (Note Nat)),
      Reached ⟨30, 2, 10, ⟨1.0, 300.0, 0.1⟩⟩ c log ∧ c.held = [7, 8] ∧
      (c.queue.take 2).1 = .key 9 ∧ c.queue.isPending 7 = true ∧
      Distinct c.held ∧ c.held.Perm c.queue.processing ∧ c.held.contains 9 = false := by
  have started : Reached (κ := Nat) ⟨30, 2, 10, ⟨1.0, 300.0, 0.1⟩⟩ _ [] := .start (.new rfl) rfl
  have reached := reached_of_run? started
    [.enqueue 7, .enqueue 8, .poll 0, .poll 1, .enqueue 7, .enqueue 9] rfl
  obtain ⟨distinct, perm, fresh⟩ := held_keys_are_exclusive reached
  exact ⟨_, _, reached, rfl, rfl, rfl, distinct, perm, fresh 2 9 (Or.inl rfl)⟩

end Controller

end AppOperator
