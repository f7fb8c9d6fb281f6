import Mathlib.Algebra.GroupWithZero.Nat
import AppOperator.Proofs.Controller.Exclusion
import AppOperator.Proofs.Queue.Shutdown

/-!
# Stopping

What happens to a controller happens to its queue as events of the queue, so that a
controller that is stopped shuts its queue down and everybody there is released.
The callers of the queue are the workers that wait.  After a stop no worker comes
back to the line: who waits may get one more key, who holds one concludes its pass,
and then they leave.
-/

set_option autoImplicit false

namespace AppOperator

def Note.started? {κ : Type} : Note κ → Option κ
  | .started key => some key
  | _ => none

def Taken.key? {κ : Type} : Taken κ → Option κ
  | .key given => some given
  | _ => none

def ControllerEvent.worker? {κ : Type} : ControllerEvent κ → Option Nat
  | .poll index | .wake index | .conclude index .. => some index
  | _ => none

namespace WorkQueue

variable {κ : Type} [BEq κ]

theorem performAll?_append (q : WorkQueue κ) (first second : List (QueueEvent κ)) :
    q.performAll? (first ++ second) = (q.performAll? first).bind fun middle =>
      (middle.2.performAll? second).map fun later => (middle.1 ++ later.1, later.2) := by
  induction first generalizing q with
  | nil => simp [performAll?]
  | cons event rest ih =>
      simp only [List.cons_append, performAll?]
      cases q.perform? event with
      | none => rfl
      | some after =>
          simp only [Option.bind_some, ih]
          cases after.2.performAll? rest with
          | none => rfl
          | some middle => simp [Function.comp_def]

theorem Lively.performAll {q r : WorkQueue κ} (lively : q.Lively) {events : List (QueueEvent κ)}
    {answers : List (Taken κ)} (performed : q.performAll? events = some (answers, r)) :
    r.Lively := by
  induction events generalizing q answers with
  | nil =>
      cases performed
      exact lively
  | cons event rest ih =>
      obtain ⟨⟨answer, middle⟩, first, performed⟩ := Option.bind_eq_some_iff.mp performed
      obtain ⟨⟨answers', last⟩, later, same⟩ := Option.map_eq_some_iff.mp performed
      cases same
      exact ih (lively.performs (performs_of_perform? first)) later

section Callers

variable (q : WorkQueue κ)

theorem callers_add (key : κ) : (q.add key).callers.Perm q.callers := by
  obtain ⟨-, same⟩ | ⟨-, -, -, same⟩ | ⟨-, -, -, same⟩ := add_cases q key
  · rw [same]
  · rw [same]
    exact List.Perm.refl _
  · rw [same]
    exact callers_put { q with dirty := q.dirty ++ [key] } (.key key)

theorem callers_finish (key : κ) : (q.finish key).callers.Perm q.callers := by
  simp only [WorkQueue.finish]
  split
  · exact callers_put { q with processing := q.processing.filter (· != key) } (.key key)
  · exact List.Perm.refl _

theorem callers_addAfter (key : κ) (delay now : Float) (serial : Nat) :
    (q.addAfter key delay now serial).callers.Perm q.callers := by
  obtain ⟨-, same⟩ | ⟨-, same⟩ | ⟨-, same⟩ := addAfter_cases q key delay now serial
  · rw [same]
  · rw [same]
    exact callers_add q key
  · rw [same]
    exact List.Perm.refl _

theorem callers_take (caller : Nat) :
    ((q.take caller).1 = .blocked ∧ (q.take caller).2.callers.Perm (caller :: q.callers)) ∨
      ((q.take caller).1 ≠ .blocked ∧ (q.take caller).2.callers.Perm q.callers) := by
  obtain ⟨-, same⟩ | ⟨key, rest, -, same⟩ | ⟨rest, -, same⟩ := take_cases q caller
  · rw [same]
    refine Or.inl ⟨rfl, ?_⟩
    have last : (q.blocked ++ [caller] ++ q.woken).Perm (caller :: (q.blocked ++ q.woken)) := by
      rw [List.append_assoc]
      exact List.perm_middle
    exact last
  · rw [same]
    exact Or.inr ⟨by simp, List.Perm.refl _⟩
  · rw [same]
    exact Or.inr ⟨by simp, callers_put { q with inner := rest } .marker⟩

end Callers

end WorkQueue

namespace Controller

variable {κ : Type} [BEq κ]

/-! ## What happens to the queue -/

/-- What an event asks of the queue. -/
def queueEvents (c : Controller κ) : ControllerEvent κ → List (QueueEvent κ)
  | .enqueue key => [.add key]
  | .poll index => if c.running then [.take index] else []
  | .wake index => [.retake index]
  | .conclude index report random now serial =>
      match c.workers[index]? with
      | some (.holding key _) =>
          [if report.success then .forget key else .addRateLimited c.policy random key now serial,
            .finish key]
      | _ => []
  | .fire key => [.fire key]
  | .stop => [.shutdown]

theorem give_queue (c : Controller κ) (index : Nat) (taken : Taken κ × WorkQueue κ) :
    (c.give index taken).queue = taken.2 := by
  unfold give
  split <;> rfl

theorem started_of_give {c : Controller κ} {index : Nat} (bound : index < c.workers.length)
    (taken : Taken κ × WorkQueue κ) :
    ((c.give index taken).startedBy index).filterMap Note.started? = taken.1.key?.toList := by
  obtain ⟨answer, queue⟩ := taken
  cases answer with
  | key key => simp [startedBy, give, setWorker, bound, Note.started?, Taken.key?]
  | shutDown => simp [startedBy, give, setWorker, bound, Taken.key?]
  | blocked => simp [startedBy, give, setWorker, bound, Taken.key?]

theorem ready_of_poll {c after : Controller κ} {index : Nat}
    (step : c.step? (.poll index) = some after) : c.workers[index]? = some .ready ∧
      after = if c.running then c.give index (c.queue.take index) else c.setWorker index .exited := by
  simp only [step?] at step
  split at step
  · next ready =>
      rw [← apply_ite some] at step
      exact ⟨ready, (Option.some.inj step).symm⟩
  · cases step

theorem waiting_of_wake {c after : Controller κ} {index : Nat}
    (step : c.step? (.wake index) = some after) : c.workers[index]? = some .waiting ∧
      index ∈ c.queue.woken ∧ after = c.give index (c.queue.retake index) := by
  simp only [step?] at step
  split at step
  · next waiting =>
      split at step
      · next woken =>
          cases step
          exact ⟨waiting, woken, rfl⟩
      · cases step
  · cases step

/-- The queue after an event has come about by what the event asks of it, and the passes that
have started are those of the keys it has handed out. -/
theorem performAll?_of_step? {c after : Controller κ} {event : ControllerEvent κ}
    (step : c.step? event = some after) : ∃ answers,
      c.queue.performAll? (c.queueEvents event) = some (answers, after.queue) ∧
        (c.notes event after).filterMap Note.started? = answers.filterMap Taken.key? := by
  cases event with
  | enqueue key =>
      cases step
      exact ⟨[], rfl, rfl⟩
  | poll index =>
      obtain ⟨ready, rfl⟩ := ready_of_poll step
      obtain ⟨bound, -⟩ := List.getElem?_eq_some_iff.mp ready
      cases running : c.running with
      | true =>
          refine ⟨[(c.queue.take index).1], ?_, ?_⟩
          · simp [queueEvents, running, WorkQueue.performAll?, WorkQueue.perform?, give_queue]
          · rw [if_pos rfl, notes, started_of_give bound]
            cases (c.queue.take index).1 <;> rfl
      | false =>
          refine ⟨[], ?_, ?_⟩
          · simp [queueEvents, running, WorkQueue.performAll?, setWorker]
          · simp [notes, startedBy, setWorker, bound]
  | wake index =>
      obtain ⟨waiting, woken, rfl⟩ := waiting_of_wake step
      obtain ⟨bound, -⟩ := List.getElem?_eq_some_iff.mp waiting
      refine ⟨[(c.queue.retake index).1], ?_, ?_⟩
      · simp [queueEvents, woken, WorkQueue.performAll?, WorkQueue.perform?, give_queue]
      · rw [notes, started_of_give bound]
        cases (c.queue.retake index).1 <;> rfl
  | conclude index report random now serial =>
      cases steps_of_step? step with
      | concluded _ key retryCount _ _ _ _ holding =>
          refine ⟨[], ?_, by simp [notes, holding, Note.started?]⟩
          cases success : report.success with
          | true =>
              simp [queueEvents, holding, success, WorkQueue.performAll?, WorkQueue.perform?,
                Controller.conclude, setWorker, remember]
          | false =>
              simp [queueEvents, holding, success, WorkQueue.performAll?, WorkQueue.perform?,
                Controller.conclude, setWorker, remember]
  | fire key =>
      cases steps_of_step? step with
      | fired _ armed =>
          exact ⟨[], by simp [queueEvents, WorkQueue.performAll?, WorkQueue.perform?, armed], rfl⟩
  | stop =>
      cases step
      exact ⟨[], rfl, rfl⟩

theorem performAll?_of_run? {c after : Controller κ} {events : List (ControllerEvent κ)}
    (run : c.run? events = some after) : ∃ asked answers,
      c.queue.performAll? asked = some (answers, after.queue) ∧
        (c.trace events).filterMap Note.started? = answers.filterMap Taken.key? := by
  induction events generalizing c with
  | nil =>
      cases run
      exact ⟨[], [], rfl, rfl⟩
  | cons event rest ih =>
      obtain ⟨middle, step, run⟩ := Option.bind_eq_some_iff.mp run
      obtain ⟨first, performed, started⟩ := performAll?_of_step? step
      obtain ⟨asked, later, performed', started'⟩ := ih run
      refine ⟨c.queueEvents event ++ asked, first ++ later, ?_, ?_⟩
      · rw [WorkQueue.performAll?_append, performed, Option.bind_some, performed', Option.map_some]
      · simp only [trace, step, List.filterMap_append, started, started']

theorem lively_of_reached {settings : ControllerSettings} {c : Controller κ}
    {log : List (Note κ)} (reached : Reached settings c log) : c.queue.Lively := by
  induction reached with
  | new fresh =>
      simp only [Controller.new] at fresh
      split at fresh
      · cases fresh
      · split at fresh
        · cases fresh
        · cases Except.ok.inj fresh
          have fresh : (WorkQueue.empty : WorkQueue κ).Reached true := .empty
          exact fresh.lively
  | start reached idle lively => exact lively
  | step reached step lively =>
      obtain ⟨answers, performed, -⟩ := performAll?_of_step? step
      exact lively.performAll performed

/-! ## The workers that wait -/

/-- The callers of the queue are the workers that wait, each of them once. -/
structure Attended (c : Controller κ) : Prop where
  distinct : c.queue.callers.Nodup
  waits : ∀ index, index ∈ c.queue.callers ↔ c.workers[index]? = some .waiting

namespace Attended

variable {c after : Controller κ} {index : Nat} {worker new : Worker κ}

omit [BEq κ] in
theorem of_callers (attended : c.Attended) (callers : after.queue.callers.Perm c.queue.callers)
    (workers : after.workers = c.workers) : after.Attended := by
  refine ⟨callers.nodup_iff.mpr attended.distinct, ?_⟩
  intro index
  rw [callers.mem_iff, workers]
  exact attended.waits index

omit [BEq κ] in
theorem setWorker (attended : c.Attended) (here : c.workers[index]? = some worker)
    (unblocked : worker ≠ .waiting) (stays : new ≠ .waiting) :
    (c.setWorker index new).Attended := by
  obtain ⟨bound, -⟩ := List.getElem?_eq_some_iff.mp here
  refine ⟨attended.distinct, ?_⟩
  intro other
  change other ∈ c.queue.callers ↔ (c.workers.set index new)[other]? = _
  rw [attended.waits other]
  by_cases same : index = other
  · subst same
    rw [here, List.getElem?_set_self bound]
    simp [unblocked, stays]
  · rw [List.getElem?_set_ne same]

theorem give {queue : WorkQueue κ} (here : c.workers[index]? = some worker)
    (distinct : queue.callers.Nodup) (absent : index ∉ queue.callers)
    (others : ∀ other, other ≠ index →
      (other ∈ queue.callers ↔ c.workers[other]? = some .waiting)) :
    (c.give index (queue.take index)).Attended := by
  obtain ⟨bound, -⟩ := List.getElem?_eq_some_iff.mp here
  have elsewhere : ∀ other, other ≠ index → ∀ new,
      (c.workers.set index new)[other]? = c.workers[other]? := by
    intro other different new
    exact List.getElem?_set_ne (Ne.symm different)
  rcases queue.callers_take index with ⟨blocked, callers⟩ | ⟨answered, callers⟩
  · have workers : (c.give index (queue.take index)).workers = c.workers.set index .waiting := by
      simp [Controller.give, blocked, Controller.setWorker]
    refine ⟨?_, ?_⟩
    · rw [give_queue, callers.nodup_iff]
      exact List.nodup_cons.mpr ⟨absent, distinct⟩
    · intro other
      rw [give_queue, callers.mem_iff, workers]
      by_cases same : other = index
      · subst same
        simp [bound]
      · rw [elsewhere other same, ← others other same]
        simp [same]
  · have workers : ∃ new, new ≠ Worker.waiting ∧
        (c.give index (queue.take index)).workers = c.workers.set index new := by
      unfold Controller.give
      split
      · exact ⟨_, by simp, rfl⟩
      · exact ⟨_, by simp, rfl⟩
      · next still => exact absurd still answered
    obtain ⟨new, stays, workers⟩ := workers
    refine ⟨?_, ?_⟩
    · rw [give_queue, callers.nodup_iff]
      exact distinct
    · intro other
      rw [give_queue, callers.mem_iff, workers]
      by_cases same : other = index
      · subst same
        rw [List.getElem?_set_self bound]
        simp [absent, stays]
      · rw [elsewhere other same]
        exact others other same

end Attended

theorem attended_step {c after : Controller κ} {event : ControllerEvent κ}
    (attended : c.Attended) (step : c.step? event = some after) : after.Attended := by
  have stepped := step
  cases steps_of_step? step with
  | asked key => exact attended.of_callers (c.queue.callers_add key) rfl
  | left index ready => exact attended.setWorker ready (by simp) (by simp)
  | polled index ready =>
      refine Attended.give ready attended.distinct ?_ fun other _ => attended.waits other
      rw [attended.waits, ready]
      simp
  | woken index waiting =>
      have woken : index ∈ c.queue.woken := by
        simp only [step?, waiting] at stepped
        split at stepped
        · next woken => exact woken
        · cases stepped
      have callers := WorkQueue.callers_erase woken
      have distinct := List.nodup_cons.mp (callers.nodup_iff.mp attended.distinct)
      refine Attended.give waiting distinct.2 distinct.1 ?_
      intro other different
      rw [← attended.waits other, callers.mem_iff]
      simp [different]
  | concluded index key retryCount report random now serial holding =>
      have concluded : (c.conclude key retryCount report random now serial).Attended := by
        unfold Controller.conclude
        split
        · exact attended.of_callers (List.Perm.refl _) rfl
        · exact attended.of_callers
            (WorkQueue.callers_addAfter (c.queue.setFailures key _) key _ now serial) rfl
      have finished : ({ c.conclude key retryCount report random now serial with
          queue := (c.conclude key retryCount report random now serial).queue.finish key } :
            Controller κ).Attended :=
        concluded.of_callers (WorkQueue.callers_finish _ key) rfl
      exact finished.setWorker holding (by simp) (by simp)
  | fired key armed =>
      exact attended.of_callers (WorkQueue.callers_add { c.queue with
        timers := c.queue.timers.filter fun timer => timer.key != key } key) rfl
  | stopped => exact attended.of_callers (WorkQueue.callers_shutdown c.queue) rfl

theorem attended_of_reached {settings : ControllerSettings} {c : Controller κ}
    {log : List (Note κ)} (reached : Reached settings c log) : c.Attended := by
  induction reached with
  | new fresh =>
      simp only [Controller.new] at fresh
      split at fresh
      · cases fresh
      · split at fresh
        · cases fresh
        · cases Except.ok.inj fresh
          exact ⟨List.nodup_nil, by simp [WorkQueue.callers, WorkQueue.empty]⟩
  | @start c log reached idle attended =>
      have nobody : c.queue.callers = [] := by
        apply List.eq_nil_iff_forall_not_mem.mpr
        intro index member
        obtain ⟨bound, waits⟩ := List.getElem?_eq_some_iff.mp ((attended.waits index).mp member)
        have gone := List.all_eq_true.mp idle _ (List.getElem_mem bound)
        rw [waits] at gone
        cases gone
      refine ⟨attended.distinct, ?_⟩
      intro index
      change index ∈ c.queue.callers ↔ (List.replicate c.workerCount Worker.ready)[index]? = _
      rw [nobody, List.getElem?_replicate]
      simp
  | step reached step attended => exact attended_step attended step

/-! ## After a stop -/

/-- How many turns a worker may still have once the controller is stopped. -/
def turnsLeft : Worker κ → Nat
  | .waiting => 3
  | .holding _ _ => 2
  | .ready => 1
  | .exited => 0

/-- How many passes a worker may still start once the controller is stopped. -/
def startsLeft : Option (Worker κ) → Nat
  | some .waiting => 1
  | _ => 0

/-- The passes that a worker starts in the course of a list of events. -/
def startsOf (c : Controller κ) (index : Nat) : List (ControllerEvent κ) → Nat
  | [] => 0
  | event :: rest =>
      match c.step? event with
      | some after =>
          (if event.worker? = some index then
            ((c.notes event after).filterMap Note.started?).length else 0)
            + after.startsOf index rest
      | none => 0

structure Stopped (c : Controller κ) : Prop where
  idle : c.running = false
  closed : c.queue.shuttingDown = true
  lively : c.queue.Lively

/-- The turn of a worker after a stop. -/
structure Turn (c after : Controller κ) (index : Nat) (worker new : Worker κ)
    (started : Nat) : Prop where
  here : c.workers[index]? = some worker
  workers : after.workers = c.workers.set index new
  fewer : turnsLeft new < turnsLeft worker
  starts : started + startsLeft (some new) ≤ startsLeft (some worker)

/-- After a stop a worker that waits gets a key or leaves, one that holds a key becomes
ready, and one that is ready leaves. -/
theorem turn_of_step? {c after : Controller κ} {event : ControllerEvent κ} {index : Nat}
    (stopped : c.Stopped) (turn : event.worker? = some index)
    (step : c.step? event = some after) : ∃ worker new,
      Turn c after index worker new ((c.notes event after).filterMap Note.started?).length := by
  cases event with
  | enqueue key => cases turn
  | fire key => cases turn
  | stop => cases turn
  | poll index =>
      cases turn
      obtain ⟨ready, rfl⟩ := ready_of_poll step
      obtain ⟨bound, -⟩ := List.getElem?_eq_some_iff.mp ready
      refine ⟨.ready, .exited, ready, ?_, by simp [turnsLeft], ?_⟩
      · simp [stopped.idle, setWorker]
      · simp [stopped.idle, notes, startedBy, setWorker, bound, startsLeft]
  | wake index =>
      cases turn
      obtain ⟨waiting, woken, rfl⟩ := waiting_of_wake step
      obtain ⟨bound, -⟩ := List.getElem?_eq_some_iff.mp waiting
      -- the line of a closed queue holds the marker at least, so the worker is answered
      have answered : (c.queue.retake index).1 = WorkQueue.nextAnswer c.queue.waiting :=
        (WorkQueue.take_of_closed (q := { c.queue with
          woken := c.queue.woken.erase index }) index stopped.lively.line stopped.closed).1
      cases waits : c.queue.waiting with
      | nil =>
          rw [waits] at answered
          refine ⟨.waiting, .exited, waiting, ?_, by simp [turnsLeft], ?_⟩
          · simp [give, answered, WorkQueue.nextAnswer, setWorker]
          · rw [notes, started_of_give bound, answered]
            exact Nat.zero_le 1
      | cons key rest =>
          rw [waits] at answered
          refine ⟨.waiting, .holding key ((c.queue.retake index).2.failureCount key),
            waiting, ?_, by simp [turnsLeft], ?_⟩
          · simp [give, answered, WorkQueue.nextAnswer, setWorker]
          · rw [notes, started_of_give bound, answered]
            exact Nat.le_refl 1
  | conclude index report random now serial =>
      cases turn
      cases steps_of_step? step with
      | concluded _ key retryCount _ _ _ _ holding =>
          refine ⟨.holding key retryCount, .ready, holding, rfl, by simp [turnsLeft], ?_⟩
          simp [notes, holding, Note.started?, startsLeft]

theorem workers_of_step? {c after : Controller κ} {event : ControllerEvent κ}
    (noTurn : event.worker? = none) (step : c.step? event = some after) :
    after.workers = c.workers := by
  cases event with
  | enqueue key =>
      cases step
      rfl
  | stop =>
      cases step
      rfl
  | fire key =>
      cases steps_of_step? step
      rfl
  | poll index => cases noTurn
  | wake index => cases noTurn
  | conclude index report random now serial => cases noTurn

theorem running_of_step? {c after : Controller κ} {event : ControllerEvent κ}
    (step : c.step? event = some after) (idle : c.running = false) : after.running = false := by
  have given : ∀ (c : Controller κ) (index : Nat) (taken : Taken κ × WorkQueue κ),
      (c.give index taken).running = c.running := by
    intro c index taken
    unfold give
    split <;> rfl
  cases steps_of_step? step with
  | asked key => exact idle
  | left index ready => exact idle
  | polled index ready => exact (given _ _ _).trans idle
  | woken index waiting => exact (given _ _ _).trans idle
  | concluded index key retryCount report random now serial holding => exact idle
  | fired key armed => exact idle
  | stopped => rfl

namespace Stopped

variable {c after : Controller κ}

theorem step {event : ControllerEvent κ} (stopped : c.Stopped)
    (step : c.step? event = some after) : after.Stopped := by
  obtain ⟨answers, performed, -⟩ := performAll?_of_step? step
  obtain ⟨-, lively, closed⟩ :=
    WorkQueue.released_of_closed stopped.lively stopped.closed performed
  exact ⟨running_of_step? step stopped.idle, closed, lively⟩

theorem run {events : List (ControllerEvent κ)} (stopped : c.Stopped)
    (run : c.run? events = some after) : after.Stopped := by
  induction events generalizing c with
  | nil =>
      cases run
      exact stopped
  | cons event rest ih =>
      obtain ⟨middle, step, run⟩ := Option.bind_eq_some_iff.mp run
      exact ih (stopped.step step) run

/-- Every worker starts at most one more pass, and only if it was waiting. -/
theorem starts_le {events : List (ControllerEvent κ)} (stopped : c.Stopped)
    (run : c.run? events = some after) (index : Nat) :
    c.startsOf index events + startsLeft after.workers[index]? ≤ startsLeft c.workers[index]? := by
  induction events generalizing c with
  | nil =>
      cases run
      simp [startsOf]
  | cons event rest ih =>
      obtain ⟨middle, step, run⟩ := Option.bind_eq_some_iff.mp run
      have later := ih (stopped.step step) run
      simp only [startsOf, step]
      cases turn : event.worker? with
      | none =>
          rw [workers_of_step? turn step] at later
          simpa using later
      | some actor =>
          obtain ⟨worker, new, here, workers, -, starts⟩ := turn_of_step? stopped turn step
          obtain ⟨bound, -⟩ := List.getElem?_eq_some_iff.mp here
          rw [workers] at later
          by_cases same : actor = index
          · subst same
            rw [List.getElem?_set_self bound] at later
            rw [if_pos rfl, here]
            omega
          · rw [List.getElem?_set_ne same] at later
            rw [if_neg (by simpa using same)]
            omega

end Stopped

def allTurnsLeft (c : Controller κ) : Nat :=
  (c.workers.map turnsLeft).sum

omit [BEq κ] in
theorem sum_turnsLeft_set {workers : List (Worker κ)} {index : Nat} {worker : Worker κ}
    (here : workers[index]? = some worker) (new : Worker κ) :
    ((workers.set index new).map turnsLeft).sum + turnsLeft worker =
      (workers.map turnsLeft).sum + turnsLeft new := by
  induction workers generalizing index with
  | nil => simp at here
  | cons first rest ih =>
      cases index with
      | zero =>
          cases here
          simp only [List.set_cons_zero, List.map_cons, List.sum_cons]
          omega
      | succ index =>
          have tail := ih here
          simp only [List.set_cons_succ, List.map_cons, List.sum_cons]
          omega

omit [BEq κ] in
theorem allTurnsLeft_le (c : Controller κ) : c.allTurnsLeft ≤ 3 * c.workers.length := by
  have each : ∀ worker : Worker κ, turnsLeft worker ≤ 3 := by
    intro worker
    cases worker <;> simp [turnsLeft]
  unfold allTurnsLeft
  induction c.workers with
  | nil => simp
  | cons first rest ih =>
      have head := each first
      simp only [List.map_cons, List.sum_cons, List.length_cons]
      omega

/-- After a stop every turn of a worker is one of the few that are left. -/
theorem Stopped.turns_le {c after : Controller κ} {events : List (ControllerEvent κ)}
    (stopped : c.Stopped) (run : c.run? events = some after) :
    events.countP (·.worker?.isSome) + after.allTurnsLeft ≤ c.allTurnsLeft := by
  induction events generalizing c with
  | nil =>
      cases run
      simp
  | cons event rest ih =>
      obtain ⟨middle, step, run⟩ := Option.bind_eq_some_iff.mp run
      have later := ih (stopped.step step) run
      rw [List.countP_cons]
      cases turn : event.worker? with
      | none =>
          have same : middle.allTurnsLeft = c.allTurnsLeft := by
            rw [allTurnsLeft, workers_of_step? turn step, allTurnsLeft]
          simp only [Option.isSome_none, Bool.false_eq_true, if_false]
          omega
      | some actor =>
          obtain ⟨worker, new, here, workers, fewer, -⟩ := turn_of_step? stopped turn step
          have sums := sum_turnsLeft_set here new
          rw [← workers] at sums
          simp only [Option.isSome_some, if_true]
          unfold allTurnsLeft at later ⊢
          omega

/-- As long as a worker has not left, it is somebody's turn: a worker that waits is on its
way, or another one is that will wake it. -/
theorem exists_turn {c : Controller κ} (stopped : c.Stopped) (attended : c.Attended)
    (busy : c.allExited = false) :
    ∃ event after, event.worker?.isSome = true ∧ c.step? event = some after := by
  have remains : ∃ worker ∈ c.workers, worker.hasExited = false := by
    by_contra none
    push Not at none
    have gone : c.allExited = true := by
      apply List.all_eq_true.mpr
      intro worker member
      exact Bool.not_eq_false _ ▸ none worker member
    rw [busy] at gone
    cases gone
  obtain ⟨worker, member, stays⟩ := remains
  obtain ⟨index, here⟩ := List.mem_iff_getElem?.mp member
  cases worker with
  | exited => cases stays
  | ready => exact ⟨.poll index, _, rfl, by simp only [step?, here, stopped.idle]; rfl⟩
  | holding key retryCount =>
      exact ⟨.conclude index .absent 0 0 0, _, rfl, by simp only [step?, here]; rfl⟩
  | waiting =>
      have calls := (attended.waits index).mpr here
      have somebody : c.queue.woken ≠ [] := by
        intro none
        have blocked : c.queue.blocked ≠ [] := by
          intro nobody
          simp [WorkQueue.callers, none, nobody] at calls
        have enough := stopped.lively.waking blocked
        rw [stopped.lively.line, if_pos stopped.closed, none] at enough
        simp at enough
      obtain ⟨next, others, woken⟩ := List.exists_cons_of_ne_nil somebody
      have onTheWay : next ∈ c.queue.woken := by simp [woken]
      have waits := (attended.waits next).mp (List.mem_append_right _ onTheWay)
      exact ⟨.wake next, _, rfl, by simp only [step?, waits, if_pos onTheWay]; rfl⟩

/-- The workers that have not left can all have their turns, and then they have left. -/
theorem exists_turns_to_exit {c : Controller κ} (stopped : c.Stopped) (attended : c.Attended) :
    ∃ events last, (∀ event ∈ events, event.worker?.isSome = true) ∧
      c.run? events = some last ∧ last.allExited = true := by
  generalize size : c.allTurnsLeft = count
  induction count using Nat.strongRecOn generalizing c with
  | ind count ih =>
      cases busy : c.allExited with
      | true => exact ⟨[], c, by simp, rfl, busy⟩
      | false =>
          obtain ⟨event, after, turn, step⟩ := exists_turn stopped attended busy
          have one : c.run? [event] = some after := by simp [run?, step]
          have fewer := stopped.turns_le one
          rw [List.countP_singleton, turn, if_pos rfl, size] at fewer
          obtain ⟨events, last, turns, run, exited⟩ := ih after.allTurnsLeft (by omega)
            (stopped.step step) (attended_step attended step) rfl
          refine ⟨event :: events, last, ?_, ?_, exited⟩
          · intro other among
            rcases List.mem_cons.mp among with rfl | among
            · exact turn
            · exact turns other among
          · simp only [run?, step, Option.bind_some, run]

/-- What a controller that was stopped has made of later events: the passes that have started
are those of the first keys in line, at most one for each worker; the workers have had a few
turns, and it is somebody's turn until all have left; then no pass is under way. -/
structure Drained (c : Controller κ) (events : List (ControllerEvent κ))
    (after : Controller κ) : Prop where
  started : ∃ count, (c.stop.trace events).filterMap Note.started? = c.queue.waiting.take count
  once : ∀ index, c.stop.startsOf index events ≤ 1
  bounded : events.countP (·.worker?.isSome) ≤ 3 * c.workers.length
  goesOn : after.allExited = false →
    ∃ event next, event.worker?.isSome = true ∧ after.step? event = some next
  returns : ∃ more last, after.run? more = some last ∧ last.allExited = true
  idle : after.allExited = true → after.held = [] ∧ after.queue.processing = []

omit [BEq κ] in
theorem filterMap_answersFor (keys : List κ) (count : Nat) :
    (WorkQueue.answersFor keys count).filterMap Taken.key? = keys.take count := by
  have nothing : (List.replicate (count - keys.length) Taken.shutDown).filterMap
      (Taken.key? (κ := κ)) = [] := by
    apply List.filterMap_eq_nil_iff.mpr
    intro answer member
    rw [List.eq_of_mem_replicate member]
    rfl
  rw [WorkQueue.answersFor, List.filterMap_append, nothing, List.append_nil, List.filterMap_map]
  exact List.filterMap_some

theorem attended_run {c after : Controller κ} {events : List (ControllerEvent κ)}
    (attended : c.Attended) (run : c.run? events = some after) : after.Attended := by
  induction events generalizing c with
  | nil =>
      cases run
      exact attended
  | cons event rest ih =>
      obtain ⟨middle, step, run⟩ := Option.bind_eq_some_iff.mp run
      exact ih (attended_step attended step) run

omit [BEq κ] in
theorem held_of_allExited {c : Controller κ} (exited : c.allExited = true) : c.held = [] := by
  apply List.filterMap_eq_nil_iff.mpr
  intro worker member
  have gone := List.all_eq_true.mp exited worker member
  cases worker <;> simp_all [Worker.hasExited, Worker.held?]

theorem drained_of_reached [EquivBEq κ] {settings : ControllerSettings} {c after : Controller κ}
    {log : List (Note κ)} {events : List (ControllerEvent κ)} (reached : Reached settings c log)
    (run : c.stop.run? events = some after) : Drained c events after := by
  have lively := lively_of_reached reached
  have stop : c.step? .stop = some c.stop := rfl
  have attended := attended_step (attended_of_reached reached) stop
  have stopped : c.stop.Stopped :=
    ⟨rfl, WorkQueue.shutdown_shuttingDown c.queue, lively.shutdown⟩
  have now := stopped.run run
  have coherent : after.Coherent :=
    coherent_of_reached (reached_of_run? (.step reached stop) events run)
  exact {
    started := by
      obtain ⟨asked, answers, performed, started⟩ := performAll?_of_run? run
      obtain ⟨released, -⟩ := lively.released performed
      rw [released.answers, filterMap_answersFor] at started
      exact ⟨_, started⟩
    once := by
      intro index
      have starts := stopped.starts_le run index
      have few : startsLeft c.stop.workers[index]? ≤ 1 := by
        unfold startsLeft
        split <;> omega
      omega
    bounded := by
      have turns := stopped.turns_le run
      have few : c.stop.allTurnsLeft ≤ 3 * c.workers.length := allTurnsLeft_le c.stop
      omega
    goesOn := exists_turn now (attended_run attended run)
    returns := by
      obtain ⟨more, last, -, returns⟩ := exists_turns_to_exit now (attended_run attended run)
      exact ⟨more, last, returns⟩
    idle := by
      intro exited
      have nobody := held_of_allExited exited
      have same := coherent.held
      rw [nobody] at same
      exact ⟨nobody, same.nil_eq.symm⟩ }

/-- When a queue is shut down everybody is released: the keys in line are handed out in order,
all other callers are sent away, and nothing comes back.  A controller that is stopped comes
to its end: each of its workers starts at most one more pass, for a key that was in line, and
they all leave. -/
theorem shutdown_releases_everybody [EquivBEq κ] :
    (∀ (careful : Bool) (q : WorkQueue κ), q.Reached careful →
      (careful = true → Distinct q.waiting) ∧
      ∀ (later : List (QueueEvent κ)) (answers : List (Taken κ)) (last : WorkQueue κ),
        q.shutdown.performAll? later = some (answers, last) →
        WorkQueue.Released q.waiting q.callers later answers last ∧
        ∃ (wakes : List Nat) (answers' : List (Taken κ)) (released : WorkQueue κ),
          last.performAll? (wakes.map .retake) = some (answers', released) ∧
            released.callers = []) ∧
    (∀ (settings : ControllerSettings) (c : Controller κ) (log : List (Note κ)),
      Reached settings c log →
      ∀ (events : List (ControllerEvent κ)) (after : Controller κ),
        c.stop.run? events = some after → Drained c events after) := by
  constructor
  · intro careful q reached
    constructor
    · rintro rfl
      exact reached.consistent.waitingDistinct
    · intro later answers last performed
      obtain ⟨released, lively, closed⟩ := reached.lively.released performed
      exact ⟨released, WorkQueue.exists_wakes lively closed⟩
  · intro settings c log reached events after run
    exact drained_of_reached reached run

/-- Two callers are blocked, a key is held and asked for again, and another waits; then two
workers, of which one waits and one holds a key. -/
theorem shutdown_releases_everybody_at_work :
    (∃ (q last : WorkQueue Nat) (answers : List (Taken Nat)),
      q.Reached true ∧ q.waiting = [8, 9] ∧ q.callers = [3, 1, 2] ∧ q.isPending 7 = true ∧
      q.shutdown.performAll? [.finish 7, .retake 1, .add 5, .take 9, .retake 2] =
        some (answers, last) ∧
      answers = [.key 8, .key 9, .shutDown] ∧ last.inner = [.marker] ∧
      last.timers = [] ∧ last.woken = [3]) ∧
    ∃ (c after last : Controller Nat) (log : List (Note Nat)) (more : List (ControllerEvent Nat)),
      Reached ⟨30, 2, 10, ⟨1.0, 300.0, 0.1⟩⟩ c log ∧ c.held = [7] ∧
      c.stop.run? [.wake 1, .conclude 0 (.succeeded [] false) 0 0 0, .poll 0] = some after ∧
      c.stop.startsOf 1 [.wake 1, .conclude 0 (.succeeded [] false) 0 0 0, .poll 0] = 1 ∧
      after.run? more = some last ∧ last.allExited = true := by
  obtain ⟨queues, controllers⟩ := shutdown_releases_everybody (κ := Nat)
  constructor
  · have step : ∀ {q after : WorkQueue Nat} {answer : Option (Taken Nat)}
        (event : QueueEvent Nat), q.Reached true → (∀ key, event ≠ .finish key) →
        q.perform? event = some (answer, after) → after.Reached true :=
      fun event reached other performed =>
        .step reached (fun _ key same => absurd same (other key)) performed
    have blocked : WorkQueue.Reached true _ :=
      step (.take 2) (step (.take 1) (step (.take 0) .empty (by simp) rfl) (by simp) rfl)
        (by simp) rfl
    have held : WorkQueue.Reached true _ :=
      step (.retake 0) (step (.add 7) blocked (by simp) rfl) (by simp) rfl
    have again : WorkQueue.Reached true _ :=
      step (.add 7) (step (.take 3) held (by simp) rfl) (by simp) rfl
    have reached : WorkQueue.Reached true _ :=
      step (.add 9) (step (.add 8) again (by simp) rfl) (by simp) rfl
    obtain ⟨-, after⟩ := queues true _ reached
    obtain ⟨released, -⟩ := after
      [.finish 7, .retake 1, .add 5, .take 9, .retake 2] _ _ rfl
    exact ⟨_, _, _, reached, rfl, rfl, rfl, rfl, released.answers, released.line, released.timers,
      rfl⟩
  · have started : Reached (κ := Nat) ⟨30, 2, 10, ⟨1.0, 300.0, 0.1⟩⟩ _ [] := .start (.new rfl) rfl
    have reached := reached_of_run? started [.enqueue 7, .poll 0, .poll 1, .enqueue 8] rfl
    have drained := controllers _ _ _ reached
      [.wake 1, .conclude 0 (.succeeded [] false) 0 0 0, .poll 0] _ rfl
    obtain ⟨more, last, run, exited⟩ := drained.returns
    exact ⟨_, _, last, _, more, reached, rfl, rfl, rfl, run, exited⟩

end Controller

end AppOperator
