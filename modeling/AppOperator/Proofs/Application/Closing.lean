import AppOperator.Proofs.Application.Course

/-!
# Closing the client

A stop closes the client when nobody is left who would call the cluster: the loops of the
watcher and the resync have ended, and the workers have left.  None of them comes back, whatever
happens afterwards and however often a stop is asked for, so the client is closed once.
-/

set_option autoImplicit false

namespace AppOperator

/-! ## Parts that have ended -/

namespace Watcher

variable {w after : Watcher} {taking : Bool} {kind : ResourceKind} {input : WatchInput}
  {keys : List ObjectKey}

theorem hasEnded_iff : w.hasEnded = true ↔
    (∀ loop ∈ w.loops, loop.stage = .ended) ∧ w.resync ≠ .waiting := by
  simp [hasEnded]

theorem hasEnded_endLoop (ended : w.hasEnded = true) (kind : ResourceKind) :
    (w.endLoop kind).hasEnded = true := by
  obtain ⟨loops, notWaiting⟩ := hasEnded_iff.mp ended
  refine hasEnded_iff.mpr ⟨?_, notWaiting⟩
  intro loop among
  obtain ⟨before, stood, rfl⟩ := List.mem_map.mp among
  split
  · rfl
  · exact loops before stood

theorem hasEnded_stop (w : Watcher) : w.stop.hasEnded = true := by
  refine hasEnded_iff.mpr ⟨?_, by simp [stop]⟩
  intro loop among
  obtain ⟨before, -, rfl⟩ := List.mem_map.mp among
  rfl

theorem ended_of_loop? {loop : WatchLoop} (ended : ∀ loop ∈ w.loops, loop.stage = .ended)
    (found : w.loop? kind = some loop) : loop.stage = .ended :=
  ended loop (List.mem_of_find?_eq_some found)

theorem turn_of_ended (ended : ∀ loop ∈ w.loops, loop.stage = .ended) :
    w.turn taking kind input = none := by
  cases found : w.loop? kind with
  | none => simp [turn, found]
  | some loop =>
      have stage := ended_of_loop? ended found
      simp [turn, found, WatchLoop.step, stage]

theorem turn_spares (turns : w.turn taking kind input = some (keys, after)) :
    after.running = w.running ∧ after.resync = w.resync := by
  simp only [turn, Option.bind_eq_bind, Option.bind_eq_some_iff, Option.pure_def,
    Option.some.injEq, Prod.mk.injEq] at turns
  obtain ⟨loop, -, taken, -, -, rfl⟩ := turns
  split
  · unfold markSynced
    split <;> exact ⟨rfl, rfl⟩
  · exact ⟨rfl, rfl⟩

theorem resynced_spares (w : Watcher) (taking : Bool) (answer : Listing) :
    (w.resynced taking answer).2.running = w.running ∧
      ((w.resynced taking answer).2.resync = w.resync ∨
        (w.resynced taking answer).2.resync = .ended) := by
  unfold resynced
  split
  · exact ⟨rfl, .inl rfl⟩
  · exact ⟨rfl, .inr rfl⟩
  · split
    · exact ⟨rfl, .inl rfl⟩
    · exact ⟨rfl, .inr rfl⟩
  · exact ⟨rfl, .inl rfl⟩

end Watcher

theorem Worker.hasExited_iff {κ : Type} {worker : Worker κ} :
    worker.hasExited = true ↔ worker = .exited := by
  cases worker <;> simp [Worker.hasExited]

namespace Controller

variable {κ : Type} [BEq κ] {c after : Controller κ} {event : ControllerEvent κ}

omit [BEq κ] in
theorem allExited_iff : c.allExited = true ↔ ∀ worker ∈ c.workers, worker = .exited := by
  simp only [allExited, List.all_eq_true, Worker.hasExited_iff]

theorem allExited_of_step? (exited : c.allExited = true) (step : c.step? event = some after) :
    after.allExited = true := by
  have gone : ∀ {index : Nat} {worker : Worker κ}, c.workers[index]? = some worker →
      worker = .exited := by
    intro index worker here
    exact allExited_iff.mp exited worker (List.mem_of_getElem? here)
  cases steps_of_step? step with
  | asked | fired | stopped => exact exited
  | left index ready => cases gone ready
  | polled index ready => cases gone ready
  | woken index waiting => cases gone waiting
  | concluded index key retryCount report random now serial holding => cases gone holding

end Controller

namespace Application

variable {a after last : Application} {event : ApplicationEvent}

/-- Nobody is left who would call the cluster. -/
structure Quiet (a : Application) : Prop where
  loops : ∀ loop ∈ a.watcher.loops, loop.stage = .ended
  resync : a.watcher.resync = .ended
  workers : ∀ worker ∈ a.controller.workers, worker = .exited

namespace Quiet

theorem canCall (quiet : a.Quiet) (caller : Caller) : a.canCall caller = false := by
  cases caller with
  | loop kind =>
      cases found : a.watcher.loop? kind with
      | none => simp [Application.canCall, found]
      | some loop =>
          have stage := Watcher.ended_of_loop? quiet.loops found
          simp [Application.canCall, found, stage]
  | resync => simp [Application.canCall, quiet.resync]
  | worker index =>
      cases here : a.controller.workers[index]? with
      | none => simp [Application.canCall, here]
      | some worker =>
          have gone := quiet.workers worker (List.mem_of_getElem? here)
          subst gone
          simp [Application.canCall, here, Worker.held?]

theorem usesCluster (quiet : a.Quiet) (step : a.step? event = some after) :
    event.usesCluster = false := by
  cases steps_of_step? step with
  | called caller can =>
      rw [quiet.canCall caller] at can
      cases can
  | turned kind input keys watcher turns =>
      rw [Watcher.turn_of_ended quiet.loops] at turns
      cases turns
  | resynced answer waiting =>
      rw [quiet.resync] at waiting
      cases waiting
  | left | resyncLeft | stopAsked | stopIgnored | watchesLeft | closed => rfl
  | worked _ turn controller isTurn steps =>
      cases event with
      | conclude worker report random now serial =>
          cases isTurn
          cases Controller.steps_of_step? steps with
          | concluded _ key retryCount _ _ _ _ holding =>
              cases quiet.workers _ (List.mem_of_getElem? holding)
      | poll worker => rfl
      | wake worker => rfl
      | fire key => rfl
      | _ => cases isTurn

end Quiet

/-! ## The stages -/

def isPastWatches (a : Application) : Bool :=
  a.stage = .leavingWorkers || a.stage = .stopped

/-- How far the parts of an application have come that has been started. -/
structure Staged (a : Application) : Prop where
  started : a.stage ≠ .assembled
  resync : a.watcher.resync ≠ .idle
  cancelled : a.stage ≠ .running → a.watcher.running = false
  ended : a.isPastWatches = true → a.watcher.hasEnded = true
  halted : a.isPastWatches = true → a.controller.Stopped
  exited : a.stage = .stopped → a.controller.allExited = true
  attended : a.controller.Attended
  lively : a.controller.queue.Lively

namespace Staged

theorem start {settings : Settings} {client : RestClient}
    (assembled : assembleWith settings client = .ok a) : a.start.Staged := by
  have reached := reached_of_run? assembled (show a.start.run? [] = some a.start from rfl)
  exact {
    started := by simp [Application.start]
    resync := by simp [Application.start, Watcher.start]
    cancelled := by simp [Application.start]
    ended := by simp [Application.start, isPastWatches]
    halted := by simp [Application.start, isPastWatches]
    exited := by simp [Application.start]
    attended := Controller.attended_of_reached reached
    lively := Controller.lively_of_reached reached }

theorem quiet (staged : a.Staged) (past : a.isPastWatches = true)
    (exited : a.controller.allExited = true) : a.Quiet := by
  obtain ⟨loops, notWaiting⟩ := Watcher.hasEnded_iff.mp (staged.ended past)
  refine ⟨loops, ?_, Controller.allExited_iff.mp exited⟩
  cases resync : a.watcher.resync with
  | idle => exact absurd resync staged.resync
  | waiting => exact absurd resync notWaiting
  | ended => rfl

theorem notPast_of_turn (staged : a.Staged) {taking : Bool} {kind : ResourceKind}
    {input : WatchInput} {taken : List ObjectKey × Watcher}
    (turns : a.watcher.turn taking kind input = some taken) : a.isPastWatches = false := by
  cases past : a.isPastWatches with
  | false => rfl
  | true =>
      obtain ⟨loops, -⟩ := Watcher.hasEnded_iff.mp (staged.ended past)
      rw [Watcher.turn_of_ended loops] at turns
      cases turns

theorem notPast_of_resync (staged : a.Staged) (waiting : a.watcher.resync = .waiting) :
    a.isPastWatches = false := by
  cases past : a.isPastWatches with
  | false => rfl
  | true => exact absurd waiting (Watcher.hasEnded_iff.mp (staged.ended past)).2

theorem of_notPast (started : a.stage ≠ .assembled) (resync : a.watcher.resync ≠ .idle)
    (cancelled : a.stage ≠ .running → a.watcher.running = false)
    (notPast : a.isPastWatches = false) (attended : a.controller.Attended)
    (lively : a.controller.queue.Lively) : a.Staged where
  started := started
  resync := resync
  cancelled := cancelled
  ended past := by simp [past] at notPast
  halted past := by simp [past] at notPast
  exited stage := by simp [isPastWatches, stage] at notPast
  attended := attended
  lively := lively

theorem step (staged : a.Staged) (step : a.step? event = some after) : after.Staged := by
  have run := run?_of_step? step
  have attended := Controller.attended_run staged.attended run
  obtain ⟨asked, answers, performed, -⟩ := Controller.performAll?_of_run? run
  have lively := staged.lively.performAll performed
  cases steps_of_step? step with
  | called | stopIgnored => exact staged
  -- what a loop or the resync is handed comes before the stop is past them
  | turned kind input keys watcher turns =>
      have notPast := staged.notPast_of_turn turns
      obtain ⟨running, resync⟩ := Watcher.turn_spares turns
      refine of_notPast staged.started ?_ ?_ notPast attended lively
      · exact resync ▸ staged.resync
      · exact fun stage => running.trans (staged.cancelled stage)
  | resynced answer waiting =>
      have notPast := staged.notPast_of_resync waiting
      obtain ⟨running, resync⟩ := a.watcher.resynced_spares a.controller.isTaking answer
      refine of_notPast staged.started ?_ ?_ notPast attended lively
      · change (a.watcher.resynced a.controller.isTaking answer).2.resync ≠ .idle
        rcases resync with same | ended
        · simp [same, waiting]
        · simp [ended]
      · exact fun stage => running.trans (staged.cancelled stage)
  | left kind cancelled =>
      exact { staged with
        ended := fun past => Watcher.hasEnded_endLoop (staged.ended past) kind }
  | resyncLeft cancelled =>
      exact { staged with
        resync := by simp [Watcher.endResync]
        ended := fun past => by
          obtain ⟨loops, -⟩ := Watcher.hasEnded_iff.mp (staged.ended past)
          exact Watcher.hasEnded_iff.mpr ⟨loops, by simp [Watcher.endResync]⟩ }
  | stopAsked running =>
      refine of_notPast (by simp) staged.resync (fun _ => rfl) rfl attended lively
  | watchesLeft stage ended =>
      have stopped : a.leaveWork.controller.Stopped :=
        ⟨rfl, WorkQueue.shutdown_shuttingDown a.controller.queue, lively⟩
      exact {
        started := by simp [leaveWork]
        resync := staged.resync
        cancelled := fun _ => staged.cancelled (by simp [stage])
        ended := fun _ => ended
        halted := fun _ => stopped
        exited := by simp [leaveWork]
        attended := attended
        lively := lively }
  | closed stage exited =>
      have past : a.isPastWatches = true := by simp [isPastWatches, stage]
      exact {
        started := by simp [close]
        resync := staged.resync
        cancelled := fun _ => staged.cancelled (by simp [stage])
        ended := fun _ => staged.ended past
        halted := fun _ => staged.halted past
        exited := fun _ => exited
        attended := attended
        lively := lively }
  | worked _ turn controller isTurn steps =>
      exact { staged with
        halted := fun past => (staged.halted past).step steps
        exited := fun stage => Controller.allExited_of_step? (staged.exited stage) steps
        attended := attended
        lively := lively }

theorem run {events : List ApplicationEvent} (staged : a.Staged)
    (run : a.run? events = some after) : after.Staged := by
  induction events generalizing a with
  | nil =>
      cases run
      exact staged
  | cons event rest ih =>
      obtain ⟨middle, step, run⟩ := Option.bind_eq_some_iff.mp run
      exact ih (staged.step step) run

theorem quiet_of_stopped (staged : a.Staged) (stopped : a.stage = .stopped) : a.Quiet :=
  staged.quiet (by simp [isPastWatches, stopped]) (staged.exited stopped)

end Staged

/-! ## The close -/

def closes (a : Application) : ApplicationEvent → Bool
  | .proceed => a.stage = .leavingWorkers
  | _ => false

/-- How often the client is closed in the course of a list of events. -/
def closings (a : Application) : List ApplicationEvent → Nat
  | [] => 0
  | event :: rest =>
      match a.step? event with
      | some after => (if a.closes event then 1 else 0) + after.closings rest
      | none => 0

theorem closes_or_spares (step : a.step? event = some after) :
    (a.closes event = true ∧ a.stage = .leavingWorkers ∧ a.controller.allExited = true ∧
        after = a.close) ∨
      (a.closes event = false ∧ after.client = a.client ∧
        (after.stage = .stopped ↔ a.stage = .stopped)) := by
  cases steps_of_step? step with
  | called | turned | resynced | left | resyncLeft | stopIgnored =>
      exact .inr ⟨rfl, rfl, Iff.rfl⟩
  | stopAsked running => exact .inr ⟨rfl, rfl, by simp [running]⟩
  | watchesLeft stage ended =>
      exact .inr ⟨by simp [closes, stage], rfl, by simp [leaveWork, stage]⟩
  | closed stage exited => exact .inl ⟨by simp [closes, stage], stage, exited, rfl⟩
  | worked _ turn controller isTurn steps =>
      refine .inr ⟨?_, rfl, Iff.rfl⟩
      cases event <;> cases isTurn <;> rfl

/-- After the close nothing is closed, and nobody calls. -/
theorem Staged.silent_of_stopped {events : List ApplicationEvent} (staged : a.Staged)
    (stopped : a.stage = .stopped) (run : a.run? events = some after) :
    after.stage = .stopped ∧ after.client = a.client ∧ a.closings events = 0 ∧
      ∀ event ∈ events, event.usesCluster = false := by
  induction events generalizing a with
  | nil =>
      cases run
      exact ⟨stopped, rfl, rfl, by simp⟩
  | cons event rest ih =>
      obtain ⟨middle, step, run⟩ := Option.bind_eq_some_iff.mp run
      have silent := (staged.quiet_of_stopped stopped).usesCluster step
      obtain ⟨-, stage, -, -⟩ | ⟨closes, client, stage⟩ := closes_or_spares step
      · rw [stopped] at stage
        cases stage
      · obtain ⟨stage, client', closings, later⟩ := ih (staged.step step) (stage.mpr stopped) run
        refine ⟨stage, client'.trans client, ?_, ?_⟩
        · simp [Application.closings, step, closes, closings]
        · intro other among
          rcases List.mem_cons.mp among with rfl | among
          · exact silent
          · exact later other among

theorem Staged.closings_eq {events : List ApplicationEvent} (staged : a.Staged)
    (notStopped : a.stage ≠ .stopped) (run : a.run? events = some after) :
    a.closings events = (if after.stage = .stopped then 1 else 0) ∧
      after.client = if after.stage = .stopped then a.client.close else a.client := by
  induction events generalizing a with
  | nil =>
      cases run
      simp [closings, notStopped]
  | cons event rest ih =>
      obtain ⟨middle, step, run⟩ := Option.bind_eq_some_iff.mp run
      simp only [closings, step]
      -- after the first close nothing is closed, and before it the client is the one there was
      obtain ⟨closes, -, -, rfl⟩ | ⟨closes, client, stage⟩ := closes_or_spares step
      · obtain ⟨stopped, client, closings, -⟩ := (staged.step step).silent_of_stopped rfl run
        rw [closes, closings, stopped, client]
        exact ⟨rfl, rfl⟩
      · have goesOn : middle.stage ≠ .stopped := fun stopped => notStopped (stage.mp stopped)
        obtain ⟨closings, client'⟩ := ih (staged.step step) goesOn run
        rw [closes, closings, client', client]
        exact ⟨by simp, rfl⟩

theorem run?_append (a : Application) (first second : List ApplicationEvent) :
    a.run? (first ++ second) = (a.run? first).bind fun middle => middle.run? second := by
  induction first generalizing a with
  | nil => rfl
  | cons event rest ih =>
      simp only [List.cons_append, run?]
      cases a.step? event with
      | none => rfl
      | some after => exact ih after

theorem run?_concat {events : List ApplicationEvent} (run : a.run? events = some after)
    (step : after.step? event = some last) : a.run? (events ++ [event]) = some last := by
  simp [run?_append, run, run?, step]

/-! ## A stop comes to its end -/

theorem step?_of_turn {turn : ControllerEvent ObjectKey}
    (isTurn : event.toController? = some turn) :
    a.step? event = (a.controller.step? turn).map fun controller =>
      { a with controller := controller } := by
  cases event <;> cases isTurn <;> rfl

theorem exists_run_of_turns {turns : List (ControllerEvent ObjectKey)}
    {controller : Controller ObjectKey}
    (ofWorkers : ∀ turn ∈ turns, turn.worker?.isSome = true)
    (run : a.controller.run? turns = some controller) :
    ∃ events, a.run? events = some { a with controller := controller } := by
  induction turns generalizing a with
  | nil =>
      cases run
      exact ⟨[], rfl⟩
  | cons turn rest ih =>
      obtain ⟨middle, step, run⟩ := Option.bind_eq_some_iff.mp run
      have isTurn : ∃ event : ApplicationEvent, event.toController? = some turn := by
        have ofWorker := ofWorkers turn List.mem_cons_self
        cases turn with
        | poll worker => exact ⟨.poll worker, rfl⟩
        | wake worker => exact ⟨.wake worker, rfl⟩
        | conclude worker report random now serial =>
            exact ⟨.conclude worker report random now serial, rfl⟩
        | _ => cases ofWorker
      obtain ⟨event, isTurn⟩ := isTurn
      obtain ⟨events, run⟩ := ih (a := { a with controller := middle })
        (fun other among => ofWorkers other (List.mem_cons_of_mem _ among)) run
      refine ⟨event :: events, ?_⟩
      rw [run?, step?_of_turn isTurn, step]
      exact run

theorem exists_run_of_kinds (kinds : List ResourceKind) (cancelled : a.watcher.running = false)
    (alive : ∀ loop ∈ a.watcher.loops, loop.stage ≠ .ended → loop.kind ∈ kinds) :
    ∃ events, a.run? events =
      some { a with watcher := { a.watcher with loops := a.watcher.stop.loops } } := by
  -- the kinds are those whose loops may still go on; each leaves in its turn
  induction kinds generalizing a with
  | nil =>
      have same : a.watcher.stop.loops = a.watcher.loops := by
        refine (List.map_congr_left fun loop among => ?_).trans (List.map_id _)
        have ended : loop.stage = .ended := by
          by_contra goesOn
          cases alive loop among goesOn
        rw [← ended]
        rfl
      exact ⟨[], by rw [same]; rfl⟩
  | cons kind rest ih =>
      cases watches : a.watcher.watches kind with
      | true =>
          have step : a.step? (.leave kind) = some { a with watcher := a.watcher.endLoop kind } := by
            simp [step?, leave?, cancelled, watches]
          have fewer : ∀ loop ∈ (a.watcher.endLoop kind).loops, loop.stage ≠ .ended →
              loop.kind ∈ rest := by
            intro loop among goesOn
            obtain ⟨before, stood, rfl⟩ := List.mem_map.mp among
            by_cases same : before.kind = kind
            · simp [same] at goesOn
            · rw [if_neg same] at goesOn ⊢
              exact (List.mem_cons.mp (alive before stood goesOn)).resolve_left same
          have same : (a.watcher.endLoop kind).stop.loops = a.watcher.stop.loops := by
            rw [Watcher.stop, Watcher.stop, Watcher.endLoop, List.map_map]
            refine List.map_congr_left fun loop _ => ?_
            by_cases same : loop.kind = kind <;> simp [same]
          obtain ⟨events, run⟩ := ih (a := { a with watcher := a.watcher.endLoop kind })
            cancelled fewer
          rw [same] at run
          refine ⟨.leave kind :: events, ?_⟩
          rw [run?, step]
          exact run
      | false =>
          refine ih cancelled ?_
          intro loop among goesOn
          refine (List.mem_cons.mp (alive loop among goesOn)).resolve_left ?_
          rintro rfl
          have none := List.any_eq_false.mp watches loop among
          simp [goesOn] at none

/-- A watcher that has been asked to leave comes to what a stop makes of it. -/
theorem exists_run_to_stop (cancelled : a.watcher.running = false)
    (started : a.watcher.resync ≠ .idle) :
    ∃ events, a.run? events = some { a with watcher := a.watcher.stop } := by
  obtain ⟨events, run⟩ := exists_run_of_kinds (a.watcher.loops.map (·.kind)) cancelled
    fun loop among _ => List.mem_map_of_mem among
  have whole : { a.watcher with loops := a.watcher.stop.loops, resync := .ended } =
      a.watcher.stop := by
    rw [Watcher.stop, ← cancelled]
  cases resync : a.watcher.resync with
  | idle => exact absurd resync started
  | waiting =>
      have step : ({ a with watcher := { a.watcher with loops := a.watcher.stop.loops } } :
          Application).step? .leaveResync = some { a with watcher := a.watcher.stop } := by
        rw [← whole]
        simp [step?, leaveResync?, cancelled, resync, Watcher.endResync]
      exact ⟨events ++ [.leaveResync], run?_concat run step⟩
  | ended =>
      refine ⟨events, ?_⟩
      rw [run, ← whole, ← resync]

theorem Staged.exists_run_to_close (staged : a.Staged) (stage : a.stage = .leavingWorkers) :
    ∃ more last, a.run? more = some last ∧ last.stage = .stopped := by
  have past : a.isPastWatches = true := by simp [isPastWatches, stage]
  obtain ⟨turns, controller, ofWorkers, run, exited⟩ :=
    Controller.exists_turns_to_exit (staged.halted past) staged.attended
  obtain ⟨events, run⟩ := exists_run_of_turns ofWorkers run
  have step : ({ a with controller := controller } : Application).step? .proceed =
      some ({ a with controller := controller } : Application).close := by
    simp [step?, proceed?, stage, exited]
  exact ⟨events ++ [.proceed], _, run?_concat run step, rfl⟩

/-- A stop that is under way can be brought to its end from wherever it is. -/
theorem Staged.exists_run_to_stopped (staged : a.Staged)
    (stage : a.stage = .leavingWatches ∨ a.stage = .leavingWorkers) :
    ∃ more last, a.run? more = some last ∧ last.stage = .stopped := by
  rcases stage with stage | stage
  · obtain ⟨events, run⟩ :=
      exists_run_to_stop (staged.cancelled (by simp [stage])) staged.resync
    have step : ({ a with watcher := a.watcher.stop } : Application).step? .proceed =
        some ({ a with watcher := a.watcher.stop } : Application).leaveWork := by
      simp [step?, proceed?, stage, a.watcher.hasEnded_stop]
    have run := run?_concat run step
    obtain ⟨more, last, run', stopped⟩ := (staged.run run).exists_run_to_close rfl
    refine ⟨(events ++ [.proceed]) ++ more, last, ?_, stopped⟩
    rw [run?_append, run]
    exact run'
  · exact staged.exists_run_to_close stage

/-- In every run of an application the client is closed at most once, and only by a stop.  When
it is closed, all loops and the resync have ended and the workers have left, none of them comes
back, and no call is made or answered afterwards.  A stop that is under way, wherever it is, can
be brought to its end. -/
theorem client_is_closed_last {settings : Settings} {client : RestClient}
    {events : List ApplicationEvent} (assembled : assembleWith settings client = .ok a)
    (run : a.start.run? events = some after) :
    (a.start.closings events = (if after.stage = .stopped then 1 else 0) ∧
      after.client = if after.stage = .stopped then client.close else client) ∧
    (∀ before event later middle, events = before ++ event :: later →
      a.start.run? before = some middle → middle.closes event = true →
      middle.Quiet ∧ middle.controller.held = [] ∧ after.Quiet ∧
        ∀ other ∈ later, other.usesCluster = false) ∧
    (after.stage = .leavingWatches ∨ after.stage = .leavingWorkers →
      ∃ more last, after.run? more = some last ∧ last.stage = .stopped) := by
  have staged := Staged.start assembled
  refine ⟨?_, ?_, (staged.run run).exists_run_to_stopped⟩
  · obtain ⟨-, same, -⟩ := parts_of_assembled assembled
    rw [← same]
    exact staged.closings_eq (by simp [start]) run
  · intro before event later middle split toMiddle closes
    rw [split, run?_append, toMiddle, Option.bind_some] at run
    obtain ⟨next, step, run⟩ := Option.bind_eq_some_iff.mp run
    have here := staged.run toMiddle
    obtain ⟨-, stage, exited, rfl⟩ | ⟨spares, -, -⟩ := closes_or_spares step
    · have quiet := here.quiet (by simp [isPastWatches, stage]) exited
      obtain ⟨stopped, -, -, silent⟩ := (here.step step).silent_of_stopped rfl run
      have later := ((here.step step).run run).quiet_of_stopped stopped
      exact ⟨quiet, Controller.held_of_allExited exited, later, silent⟩
    · rw [closes] at spares
      cases spares

/-- A pass has failed and another is under way, loops and resync are at work when the stop is
asked for; it is asked for again, and the pass fails before its worker leaves. -/
theorem client_is_closed_last_amid_work :
    let failed := PassReport.unexpected (.failure "boom")
    let work : List ApplicationEvent :=
      [.watch .simpleApp (.listed [listedDeclaration "web", listedDeclaration "api"] (.str "7")),
        .poll 0, .poll 1, .conclude 0 failed 0.5 0 0, .call (.loop .service)]
    let leaving : List ApplicationEvent :=
      [.stop, .watch .service (.listed [] (.str "8")), .leave .simpleApp, .leave .deployment,
        .leave .service, .stop, .leave .ingress, .leaveResync, .proceed, .poll 0,
        .call (.worker 1), .conclude 1 failed 0.5 1 1, .poll 1]
    ∃ fresh busy last, assembleWith sampleSettings (.ofSettings .default) = .ok fresh ∧
      fresh.start.run? work = some busy ∧ busy.controller.held = [.ofTexts "default" "api"] ∧
      busy.watcher.resync = .waiting ∧ busy.canCall (.loop .ingress) = true ∧
      fresh.start.run? (work ++ leaving ++ [.proceed, .stop]) = some last ∧
      fresh.start.closings (work ++ leaving ++ [.proceed, .stop]) = 1 ∧ last.Quiet := by
  intro failed work leaving
  obtain ⟨fresh, last, middle, assembled, run, toMiddle, stage, stopped, busy⟩ :
      ∃ fresh last middle, assembleWith sampleSettings (.ofSettings .default) = .ok fresh ∧
        fresh.start.run? (work ++ leaving ++ [.proceed, .stop]) = some last ∧
        fresh.start.run? (work ++ leaving) = some middle ∧ middle.stage = .leavingWorkers ∧
        last.stage = .stopped ∧ ∃ busy, fresh.start.run? work = some busy ∧
          busy.controller.held = [.ofTexts "default" "api"] ∧
          busy.watcher.resync = .waiting ∧ busy.canCall (.loop .ingress) = true :=
    ⟨_, _, _, rfl, rfl, rfl, rfl, rfl, _, rfl, rfl, rfl, rfl⟩
  obtain ⟨busy, toBusy, held, resync, calls⟩ := busy
  obtain ⟨⟨closings, -⟩, closed, -⟩ := client_is_closed_last assembled run
  have closes : middle.closes .proceed = true := by simp [Application.closes, stage]
  obtain ⟨-, -, quiet, -⟩ := closed (work ++ leaving) .proceed [.stop] middle rfl toMiddle closes
  rw [stopped] at closings
  exact ⟨fresh, busy, last, assembled, toBusy, held, resync, calls, run, closings, quiet⟩

end Application

end AppOperator
