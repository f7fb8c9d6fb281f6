import AppOperator.Proofs.Controller.Retries

/-!
# The history of a controller

Passes come to their ends one after the other, whichever workers run them, and each end adds
one record to the history, which keeps the last ones.  A record says of its pass what the pass
came to: what its report says, or that a fault broke it off.  So the records that are asked for
are those of the last passes, newest first, as many as were asked for, as the history keeps and
as there are.
-/

set_option autoImplicit false

namespace AppOperator

/-- A pass that has come to its end: a report, or the fault that broke it off. -/
structure FinishedPass (κ : Type) where
  key : κ
  result : Except Fault PassReport

/-- What there is to say of a finished pass. -/
structure PassAccount (κ : Type) where
  key : κ
  success : Bool
  phase : Phase
  message : String
  outcomes : Outcomes
deriving DecidableEq

section Accounts

variable {κ : Type}

/-- A report names the phase that failed, if one did; a fault leaves no outcomes. -/
def FinishedPass.account (pass : FinishedPass κ) : PassAccount κ :=
  match pass.result with
  | .ok report =>
      ⟨pass.key, report.success, report.failedPhase.getD report.phase, report.message,
        report.outcomes⟩
  | .error fault => ⟨pass.key, false, .failed, "Reconciliation error: " ++ fault.message, []⟩

def PassRecord.account (record : PassRecord κ) : PassAccount κ :=
  ⟨record.key, record.success, record.phase, record.message, record.outcomes⟩

/-- The end of a pass in the log of a controller. -/
def Note.ended? : Note κ → Option (κ × Bool)
  | .ended key success => some (key, success)
  | _ => none

/-- The event ends a pass. -/
def ControllerEvent.concludes : ControllerEvent κ → Bool
  | .conclude .. => true
  | _ => false

theorem account_recordOf (key : κ) (retryCount : Nat) (result : Except Fault PassReport) :
    (Controller.recordOf key retryCount (.ofResult result)).account =
      FinishedPass.account ⟨key, result⟩ := by
  cases result <;> rfl

end Accounts

namespace Controller

variable {κ : Type} [BEq κ]

/-- The states that a controller can come to, with the passes that have come to their ends on
the way, in that order. -/
inductive Worked (settings : ControllerSettings) : Controller κ → List (FinishedPass κ) → Prop where
  | new {c : Controller κ} (fresh : Controller.new settings = .ok c) : Worked settings c []
  | start {c : Controller κ} {passes : List (FinishedPass κ)} (worked : Worked settings c passes)
      (idle : c.allExited = true) : Worked settings c.start passes
  | step {c after : Controller κ} {passes : List (FinishedPass κ)} (event : ControllerEvent κ)
      (worked : Worked settings c passes) (goesOn : event.concludes = false)
      (step : c.step? event = some after) : Worked settings after passes
  | finish {c after : Controller κ} {passes : List (FinishedPass κ)} {key : κ} {retryCount : Nat}
      (index : Nat) (result : Except Fault PassReport) (random now : Float) (serial : Nat)
      (worked : Worked settings c passes)
      (holding : c.workers[index]? = some (.holding key retryCount))
      (step : c.step? (.conclude index (.ofResult result) random now serial) = some after) :
      Worked settings after (passes ++ [⟨key, result⟩])

variable {settings : ControllerSettings} {c after : Controller κ}
  {passes : List (FinishedPass κ)}

/-! ## Passes and logs -/

omit [BEq κ] in
theorem filterMap_ended?_startedBy (c : Controller κ) (index : Nat) :
    (c.startedBy index).filterMap Note.ended? = [] := by
  unfold startedBy
  split <;> rfl

omit [BEq κ] in
/-- Only the end of a pass is noted as such. -/
theorem filterMap_ended?_notes {event : ControllerEvent κ} (goesOn : event.concludes = false)
    (after : Controller κ) : (c.notes event after).filterMap Note.ended? = [] := by
  cases event with
  | conclude index report random now serial => cases goesOn
  | poll index => exact filterMap_ended?_startedBy after index
  | wake index => exact filterMap_ended?_startedBy after index
  | enqueue key => rfl
  | fire key => rfl
  | stop => rfl

/-- A log of the way tells of the same passes. -/
theorem Worked.exists_log (worked : Worked settings c passes) : ∃ log, Reached settings c log ∧
    log.filterMap Note.ended? = passes.map fun pass => (pass.key, pass.account.success) := by
  induction worked with
  | new fresh => exact ⟨[], .new fresh, rfl⟩
  | start worked idle logged =>
      obtain ⟨log, reached, same⟩ := logged
      exact ⟨log, reached.start idle, same⟩
  | step event worked goesOn step logged =>
      obtain ⟨log, reached, same⟩ := logged
      refine ⟨_, reached.step step, ?_⟩
      rw [List.filterMap_append, filterMap_ended?_notes goesOn, List.append_nil, same]
  | @finish c after passes key retryCount index result random now serial worked holding step logged =>
      obtain ⟨log, reached, same⟩ := logged
      refine ⟨_, reached.step step, ?_⟩
      have ended : (c.notes (.conclude index (.ofResult result) random now serial) after).filterMap
          Note.ended? = [(key, (FinishedPass.account ⟨key, result⟩).success)] := by
        rw [notes, holding]
        cases result <;> rfl
      rw [List.filterMap_append, ended, same, List.map_append, List.map_singleton]

/-- Whatever way a controller comes, certain passes come to their ends on it. -/
theorem Reached.exists_passes {log : List (Note κ)} (reached : Reached settings c log) :
    ∃ passes, Worked settings c passes := by
  induction reached with
  | new fresh => exact ⟨[], .new fresh⟩
  | start reached idle worked =>
      obtain ⟨passes, worked⟩ := worked
      exact ⟨passes, worked.start idle⟩
  | step reached step worked =>
      obtain ⟨passes, worked⟩ := worked
      cases steps_of_step? step with
      | concluded index key retryCount report random now serial holding =>
          exact ⟨_, worked.finish _ (.ok report) _ _ _ holding step⟩
      | asked | left | polled | woken | fired | stopped => exact ⟨passes, worked.step _ rfl step⟩

/-! ## What a history keeps -/

/-- An event that ends no pass leaves the history as it is. -/
theorem history_of_step? {event : ControllerEvent κ} (goesOn : event.concludes = false)
    (step : c.step? event = some after) :
    after.history = c.history ∧ after.capacity = c.capacity := by
  have given : ∀ (index : Nat) (taken : Taken κ × WorkQueue κ),
      (c.give index taken).history = c.history ∧ (c.give index taken).capacity = c.capacity := by
    intro index taken
    unfold give
    split <;> exact ⟨rfl, rfl⟩
  cases steps_of_step? step with
  | concluded => cases goesOn
  | polled index ready => exact given index _
  | woken index waiting => exact given index _
  | asked | left | fired | stopped => exact ⟨rfl, rfl⟩

/-- A pass that ends adds one record, which is its own, and the oldest one gives way. -/
theorem record_of_step? {index : Nat} {result : Except Fault PassReport} {random now : Float}
    {serial : Nat}
    (step : c.step? (.conclude index (.ofResult result) random now serial) = some after) :
    ∃ key retryCount record, c.workers[index]? = some (.holding key retryCount) ∧
      PassRecord.account record = FinishedPass.account ⟨key, result⟩ ∧
      after.history = (c.history ++ [record]).rtake c.capacity ∧ after.capacity = c.capacity := by
  cases steps_of_step? step with
  | concluded _ key retryCount _ _ _ _ holding =>
      exact ⟨key, retryCount, _, holding, account_recordOf key retryCount result, rfl, rfl⟩

/-- The history keeps of the last passes what there is to say of them. -/
structure Remembers (settings : ControllerSettings) (c : Controller κ)
    (passes : List (FinishedPass κ)) : Prop where
  size : settings.historySize = c.capacity
  history : c.history.map PassRecord.account = (passes.map FinishedPass.account).rtake c.capacity

theorem remembers_of_worked (worked : Worked settings c passes) : c.Remembers settings passes := by
  induction worked with
  | new fresh =>
      simp only [Controller.new] at fresh
      split at fresh
      · cases fresh
      · split at fresh
        · cases fresh
        · next notNegative =>
            cases Except.ok.inj fresh
            exact ⟨(Int.toNat_of_nonneg (not_lt.mp notNegative)).symm, by simp⟩
  | start worked idle remembers => exact ⟨remembers.size, remembers.history⟩
  | step event worked goesOn step remembers =>
      obtain ⟨history, capacity⟩ := history_of_step? goesOn step
      exact ⟨capacity ▸ remembers.size, by rw [history, capacity, remembers.history]⟩
  | finish index result random now serial worked holding step remembers =>
      obtain ⟨key, retryCount, record, holds, own, history, capacity⟩ := record_of_step? step
      rw [holding] at holds
      cases holds
      refine ⟨capacity ▸ remembers.size, ?_⟩
      rw [history, capacity, map_rtake, List.map_append, List.map_singleton, own,
        remembers.history, rtake_concat_rtake, List.map_append, List.map_singleton]

/-- The records that are asked for are those of the last passes, newest first: as many as are
asked for, as the history keeps and as there are.  Every end of a pass adds one record, which is
that of the pass whose worker ended it, and nothing else adds any. -/
theorem history_is_the_recent_past (worked : Worked settings c passes) :
    0 ≤ settings.historySize ∧
    (∀ limit : Int,
      (c.recent limit).map PassRecord.account =
        (passes.rtake (min limit.toNat settings.historySize.toNat)).reverse.map
          FinishedPass.account ∧
      (c.recent limit).length =
        min limit.toNat (min settings.historySize.toNat passes.length) ∧
      (limit ≤ 0 → c.recent limit = [])) ∧
    (∀ (index : Nat) (result : Except Fault PassReport) (random now : Float) (serial : Nat)
      (after : Controller κ),
      c.step? (.conclude index (.ofResult result) random now serial) = some after →
      ∃ key retryCount record, c.workers[index]? = some (.holding key retryCount) ∧
        PassRecord.account record = FinishedPass.account ⟨key, result⟩ ∧
        after.history = (c.history ++ [record]).rtake settings.historySize.toNat) ∧
    ∀ (event : ControllerEvent κ) (after : Controller κ), event.concludes = false →
      c.step? event = some after → after.history = c.history := by
  have remembers := remembers_of_worked worked
  have capacity : c.capacity = settings.historySize.toNat := by
    rw [remembers.size, Int.toNat_natCast]
  have records : ∀ limit : Int, (c.recent limit).map PassRecord.account =
      (passes.rtake (min limit.toNat settings.historySize.toNat)).reverse.map
        FinishedPass.account := by
    intro limit
    have last : c.recent limit = (c.history.rtake limit.toNat).reverse := rfl
    rw [last, List.map_reverse, List.map_reverse, map_rtake, map_rtake, remembers.history,
      rtake_rtake, capacity]
  refine ⟨?_, ?_, ?_, ?_⟩
  · rw [remembers.size]
    exact Int.natCast_nonneg _
  · intro limit
    have count := congrArg List.length (records limit)
    simp only [List.length_map, List.length_reverse, length_rtake, Nat.min_assoc] at count
    refine ⟨records limit, count, ?_⟩
    intro none
    rw [Int.toNat_of_nonpos none, Nat.zero_min] at count
    exact List.length_eq_zero_iff.mp count
  · intro index result random now serial after step
    obtain ⟨key, retryCount, record, holding, own, history, -⟩ := record_of_step? step
    exact ⟨key, retryCount, record, holding, own, capacity ▸ history⟩
  · intro event after goesOn step
    exact (history_of_step? goesOn step).1

/-- Two workers, three passes the last of which a fault breaks off, and room for two records. -/
theorem history_is_the_recent_past_of_overlapping_passes :
    ∃ (c : Controller Nat) (passes : List (FinishedPass Nat)),
      Worked ⟨30, 2, 2, ⟨1.0, 300.0, 0.1⟩⟩ c passes ∧ passes.length = 3 ∧
      (c.recent 5).map PassRecord.account =
        [⟨7, false, .failed, "Reconciliation error: " ++ Fault.tooDeep.message, []⟩,
          ⟨8, true, .done, "Reconciliation successful", [("Service", .updated)]⟩] ∧
      (c.recent 5).length = 2 ∧ c.recent (-1) = [] := by
  let succeeded (outcome : Outcome) : PassReport := .succeeded [("Service", outcome)] false
  have started : Worked ⟨30, 2, 2, ⟨1.0, 300.0, 0.1⟩⟩ (_ : Controller Nat) [] := .start (.new rfl) rfl
  have first := started.step (.enqueue 7) rfl rfl
  have second := first.step (.enqueue 8) rfl rfl
  have taken := second.step (.poll 0) rfl rfl
  have overlapping := taken.step (.poll 1) rfl rfl
  have created := overlapping.finish 1 (.ok (succeeded .created)) 0.5 0.0 0 rfl rfl
  have asked := created.step (.enqueue 8) rfl rfl
  have again := asked.step (.poll 1) rfl rfl
  have updated := again.finish 1 (.ok (succeeded .updated)) 0.5 0.0 1 rfl rfl
  have broken := updated.finish 0 (.error .tooDeep) 0.5 0.0 2 rfl rfl
  obtain ⟨-, recent, -⟩ := history_is_the_recent_past broken
  exact ⟨_, _, broken, rfl, (recent 5).1.trans rfl, (recent 5).2.1, (recent (-1)).2.2 (by decide)⟩

end Controller

end AppOperator
