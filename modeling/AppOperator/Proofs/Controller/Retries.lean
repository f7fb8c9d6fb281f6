import Mathlib.Data.List.DropRight
import AppOperator.Proofs.Controller.Exclusion
import AppOperator.Proofs.Queue.Failures

/-!
# Retries

The failures that the queue counts for a key are the passes for it that have failed
since the last one that succeeded, as the log tells it.  No two passes for a key are
under way at once, so the count that a worker reads when its pass starts is the count
of all that came before, and that is what the history keeps of the pass.
-/

set_option autoImplicit false

namespace AppOperator

/-- What a history keeps of a pass as far as retries go. -/
structure PassTally (κ : Type) where
  key : κ
  success : Bool
  retryCount : Nat
deriving DecidableEq, Repr

def PassRecord.tally {κ : Type} (record : PassRecord κ) : PassTally κ :=
  ⟨record.key, record.success, record.retryCount⟩

section LastEntries

variable {α β : Type}

theorem map_rtake (f : α → β) (entries : List α) (n : Nat) :
    (entries.rtake n).map f = (entries.map f).rtake n := by
  rw [List.rtake, List.rtake, List.map_drop, List.length_map]

theorem length_rtake (entries : List α) (n : Nat) :
    (entries.rtake n).length = min n entries.length := by
  rw [List.rtake, List.length_drop]
  omega

/-- The last entries of the last ones are the last ones, as many as both allow. -/
theorem rtake_rtake (entries : List α) (m n : Nat) :
    (entries.rtake m).rtake n = entries.rtake (min n m) := by
  simp only [List.rtake_eq_reverse_take_reverse, List.reverse_reverse, List.take_take]

/-- Whoever keeps the last entries only loses nothing of the last entries later. -/
theorem rtake_concat_rtake (entries : List α) (entry : α) (n : Nat) :
    (entries.rtake n ++ [entry]).rtake n = (entries ++ [entry]).rtake n := by
  cases n with
  | zero => simp
  | succ n =>
      rw [List.rtake_concat_succ, List.rtake_concat_succ, rtake_rtake,
        Nat.min_eq_left (Nat.le_succ n)]

end LastEntries

section Log

variable {κ : Type} [BEq κ]

/-- How a pass for the key went that has ended here. -/
def Note.outcome? (key : κ) : Note κ → Option Bool
  | .ended other success => if other == key then some success else none
  | _ => none

/-- A pass for the key starts here. -/
def Note.starts (key : κ) : Note κ → Bool
  | .started other => other == key
  | _ => false

/-- How many passes for the key have failed since the last one that succeeded, or since
the beginning of the log if none has. -/
def failuresInRow (log : List (Note κ)) (key : κ) : Nat :=
  ((log.filterMap (Note.outcome? key)).rtakeWhile (! ·)).length

/-- The log up to the start of the last pass for the key. -/
def beforePass (log : List (Note κ)) (key : κ) : List (Note κ) :=
  (log.rdropWhile fun note => !note.starts key).dropLast

/-- What there is to keep of a pass that ends here. -/
def Note.tally? (earlier : List (Note κ)) : Note κ → Option (PassTally κ)
  | .ended key success => some ⟨key, success, failuresInRow (beforePass earlier key) key⟩
  | _ => none

def talliesAfter (earlier : List (Note κ)) : List (Note κ) → List (PassTally κ)
  | [] => []
  | note :: rest => (note.tally? earlier).toList ++ talliesAfter (earlier ++ [note]) rest

/-- What there is to keep of all the passes that have ended, in their order. -/
def tallies (log : List (Note κ)) : List (PassTally κ) :=
  talliesAfter [] log

theorem failuresInRow_concat (log : List (Note κ)) (note : Note κ) (key : κ) :
    failuresInRow (log ++ [note]) key =
      match note.outcome? key with
      | none => failuresInRow log key
      | some true => 0
      | some false => failuresInRow log key + 1 := by
  simp only [failuresInRow, List.filterMap_append]
  cases outcome : note.outcome? key with
  | none => simp [outcome]
  | some success => cases success <;> simp [outcome]

/-- What happens to other keys changes nothing. -/
theorem failuresInRow_append_of_others (log notes : List (Note κ)) (key : κ)
    (others : ∀ other success, Note.ended other success ∈ notes → (other == key) = false) :
    failuresInRow (log ++ notes) key = failuresInRow log key := by
  have none : notes.filterMap (Note.outcome? key) = [] := by
    rw [List.filterMap_eq_nil_iff]
    intro note member
    cases note with
    | ended other success => simp [Note.outcome?, others other success member]
    | asked other => rfl
    | started other => rfl
  rw [failuresInRow, List.filterMap_append, none, List.append_nil, failuresInRow]

theorem failuresInRow_ended (log : List (Note κ)) (other key : κ) (success : Bool) :
    failuresInRow (log ++ [.ended other success]) key =
      if other == key then if success then 0 else failuresInRow log key + 1
      else failuresInRow log key := by
  rw [failuresInRow_concat, Note.outcome?]
  cases other == key <;> cases success <;> rfl

theorem failuresInRow_congr [EquivBEq κ] (log : List (Note κ)) {key other : κ}
    (same : (key == other) = true) : failuresInRow log key = failuresInRow log other := by
  have alike : (Note.outcome? key : Note κ → Option Bool) = Note.outcome? other := by
    funext note
    cases note with
    | ended its success => rw [Note.outcome?, Note.outcome?, BEq.congr_right same]
    | asked its => rfl
    | started its => rfl
  rw [failuresInRow, alike, failuresInRow]

theorem beforePass_concat (log : List (Note κ)) (note : Note κ) (key : κ) :
    beforePass (log ++ [note]) key = if note.starts key then log else beforePass log key := by
  rw [beforePass, List.rdropWhile_concat]
  cases starts : note.starts key with
  | true => simp
  | false => simp [beforePass]

theorem talliesAfter_concat (earlier log : List (Note κ)) (note : Note κ) :
    talliesAfter earlier (log ++ [note]) =
      talliesAfter earlier log ++ (note.tally? (earlier ++ log)).toList := by
  induction log generalizing earlier with
  | nil => simp [talliesAfter]
  | cons first rest ih =>
      rw [List.cons_append, talliesAfter, ih, talliesAfter, List.append_assoc, List.append_assoc,
        List.singleton_append]

theorem tallies_concat (log : List (Note κ)) (note : Note κ) :
    tallies (log ++ [note]) = tallies log ++ (note.tally? log).toList :=
  talliesAfter_concat [] log note

end Log

namespace Controller

variable {κ : Type} [BEq κ]

/-- Queue, workers and history tell of failures what the log tells of them. -/
structure Tallied (settings : ControllerSettings) (c : Controller κ) (log : List (Note κ)) :
    Prop where
  policy : c.policy = settings.backoff
  counts : ∀ key, c.queue.failureCount key = failuresInRow log key
  held : ∀ (index : Nat) (key : κ) (retryCount : Nat),
    c.workers[index]? = some (.holding key retryCount) →
    retryCount = failuresInRow (beforePass log key) key
  history : c.history.map PassRecord.tally = (tallies log).rtake c.capacity
  triggers : ∀ record ∈ c.history, record.trigger = .retry ↔ 0 < record.retryCount

namespace Tallied

variable {settings : ControllerSettings} {c after : Controller κ} {log : List (Note κ)}

/-- No failure is counted or forgotten, no pass starts and none ends. -/
theorem congr (tallied : c.Tallied settings log) (policy : after.policy = c.policy)
    (failures : after.queue.failures = c.queue.failures)
    (held : ∀ (index : Nat) (key : κ) (retryCount : Nat),
      after.workers[index]? = some (.holding key retryCount) →
      c.workers[index]? = some (.holding key retryCount))
    (history : after.history = c.history) (capacity : after.capacity = c.capacity) :
    after.Tallied settings log := by
  refine ⟨?_, ?_, ?_, ?_, ?_⟩
  · rw [policy]
    exact tallied.policy
  · intro key
    rw [WorkQueue.failureCount_congr failures]
    exact tallied.counts key
  · intro index key retryCount holding
    exact tallied.held index key retryCount (held index key retryCount holding)
  · rw [history, capacity]
    exact tallied.history
  · rw [history]
    exact tallied.triggers

theorem withQueue (tallied : c.Tallied settings log) {queue : WorkQueue κ}
    (failures : queue.failures = c.queue.failures) :
    ({ c with queue := queue } : Controller κ).Tallied settings log :=
  tallied.congr rfl failures (fun _ _ _ => id) rfl rfl

theorem asked (tallied : c.Tallied settings log) (key : κ) :
    c.Tallied settings (log ++ [.asked key]) := by
  refine ⟨tallied.policy, ?_, ?_, ?_, tallied.triggers⟩
  · intro other
    rw [failuresInRow_concat]
    exact tallied.counts other
  · intro index other retryCount holding
    rw [beforePass_concat]
    exact tallied.held index other retryCount holding
  · rw [tallies_concat]
    simpa only [Note.tally?, Option.toList_none, List.append_nil] using tallied.history

/-- A worker that holds nothing from now on. -/
theorem setWorker (tallied : c.Tallied settings log) (index : Nat) {new : Worker κ}
    (free : new.held? = none) : (c.setWorker index new).Tallied settings log := by
  refine tallied.congr rfl rfl ?_ rfl rfl
  intro other key retryCount holding
  rw [Controller.setWorker, List.getElem?_set] at holding
  split at holding
  · split at holding
    · cases Option.some.inj holding
      cases free
    · cases holding
  · exact holding

/-- A pass starts for a key that nobody holds, with the failures that are counted. -/
theorem started [EquivBEq κ] (tallied : c.Tallied settings log) (index : Nat) {key : κ}
    (unheld : c.held.contains key = false) :
    (c.setWorker index (.holding key (c.queue.failureCount key))).Tallied settings
      (log ++ [.started key]) := by
  refine ⟨tallied.policy, ?_, ?_, ?_, tallied.triggers⟩
  · intro other
    rw [failuresInRow_concat]
    exact tallied.counts other
  · intro other its retryCount holding
    rw [beforePass_concat, Note.starts]
    rw [Controller.setWorker, List.getElem?_set] at holding
    split at holding
    · split at holding
      · cases Option.some.inj holding
        rw [if_pos BEq.rfl]
        exact tallied.counts key
      · cases holding
    · have apart : ¬(key == its) = true := by
        intro same
        have present : c.held.contains key = true :=
          List.contains_iff_exists_mem_beq.mpr
            ⟨its, List.mem_filterMap.mpr ⟨_, List.mem_of_getElem? holding, rfl⟩, same⟩
        rw [unheld] at present
        cases present
      rw [if_neg apart]
      exact tallied.held other its retryCount holding
  · rw [tallies_concat, Controller.setWorker]
    simpa only [Note.tally?, Option.toList_none, List.append_nil] using tallied.history

/-- A worker asks the queue; what it gets is not held. -/
theorem give [EquivBEq κ] (tallied : c.Tallied settings log) (coherent : c.Coherent)
    {index : Nat} {worker : Worker κ} (here : c.workers[index]? = some worker) :
    (c.give index (c.queue.take index)).Tallied settings
      (log ++ (c.give index (c.queue.take index)).startedBy index) := by
  obtain ⟨bound, -⟩ := List.getElem?_eq_some_iff.mp here
  have failures := c.queue.take_failures index
  rw [startedBy_give bound]
  obtain ⟨-, same⟩ | ⟨key, rest, head, same⟩ | ⟨rest, -, same⟩ := c.queue.take_cases index
  · rw [same, List.append_nil]
    rw [same] at failures
    have blocked := tallied.withQueue failures
    exact blocked.setWorker index rfl
  · have unheld : c.held.contains key = false := by
      rw [coherent.contains_held]
      exact coherent.queue.not_held_of_head head
    rw [same]
    rw [same] at failures
    have handed := tallied.withQueue failures
    exact handed.started index unheld
  · rw [same, List.append_nil]
    rw [same] at failures
    have sent := tallied.withQueue failures
    exact sent.setWorker index rfl

/-- A pass ends, and its failures are forgotten or count one more; its record gives what
there is to keep of it. -/
theorem conclude [EquivBEq κ] (tallied : c.Tallied settings log) {index : Nat} {key : κ}
    {retryCount : Nat} (holding : c.workers[index]? = some (.holding key retryCount))
    (report : PassReport) (random now : Float) (serial : Nat) :
    (c.conclude key retryCount report random now serial).Tallied settings
      (log ++ [.ended key report.success]) := by
  have started := tallied.held index key retryCount holding
  refine ⟨tallied.policy, ?_, ?_, ?_, ?_⟩
  · intro other
    rw [failuresInRow_ended, ← tallied.counts other]
    have counted : (c.conclude key retryCount report random now serial).queue.failureCount other =
        if key == other then if report.success then 0 else c.queue.failureCount key + 1
        else c.queue.failureCount other := by
      cases success : report.success with
      | true => simp [Controller.conclude, success, remember, WorkQueue.failureCount_forget]
      | false =>
          simp [Controller.conclude, success, remember, WorkQueue.failureCount_addRateLimited]
    rw [counted]
    cases same : key == other with
    | true =>
        have together : c.queue.failureCount key = c.queue.failureCount other := by
          rw [tallied.counts, tallied.counts, failuresInRow_congr log same]
        simp [together]
    | false => rfl
  · intro other its count holds
    rw [beforePass_concat]
    exact tallied.held other its count holds
  · rw [tallies_concat, Note.tally?, ← started, Option.toList_some]
    change ((c.history ++ [recordOf key retryCount report]).rtake c.capacity).map
      PassRecord.tally = _
    rw [map_rtake, List.map_append, List.map_singleton, tallied.history, rtake_concat_rtake]
    rfl
  · intro record member
    rcases List.mem_append.mp (List.mem_of_mem_drop member) with earlier | last
    · exact tallied.triggers record earlier
    · rw [List.mem_singleton.mp last]
      simp only [recordOf]
      split <;> simp_all

end Tallied

theorem tallied_step [EquivBEq κ] {settings : ControllerSettings} {c after : Controller κ}
    {log : List (Note κ)} {event : ControllerEvent κ} (tallied : c.Tallied settings log)
    (coherent : c.Coherent) (step : c.step? event = some after) :
    after.Tallied settings (log ++ c.notes event after) := by
  cases steps_of_step? step with
  | asked key => exact (tallied.asked key).withQueue (c.queue.add_failures key)
  | left index ready =>
      obtain ⟨bound, -⟩ := List.getElem?_eq_some_iff.mp ready
      have quiet : (c.setWorker index .exited).startedBy index = [] := by
        simp [startedBy, setWorker, bound]
      rw [notes, quiet, List.append_nil]
      exact tallied.setWorker index rfl
  | polled index ready => exact tallied.give coherent ready
  | woken index waiting =>
      let again : Controller κ :=
        { c with queue := { c.queue with woken := c.queue.woken.erase index } }
      have stillTallied : again.Tallied settings log := tallied.withQueue rfl
      have stillCoherent : again.Coherent :=
        coherent.of_queue (coherent.queue.congr rfl rfl rfl rfl) rfl rfl
      exact stillTallied.give stillCoherent waiting
  | concluded index key retryCount report random now serial holding =>
      have ended : ∀ next, c.notes (.conclude index report random now serial) next =
          [.ended key report.success] := by
        simp [notes, holding]
      rw [ended]
      have concluded := tallied.conclude holding report random now serial
      exact (concluded.withQueue (WorkQueue.finish_failures _ key)).setWorker index rfl
  | fired key armed =>
      rw [notes, List.append_nil]
      exact tallied.withQueue (c.queue.fire_failures key)
  | stopped =>
      rw [notes, List.append_nil]
      exact tallied.congr rfl c.queue.shutdown_failures (fun _ _ _ => id) rfl rfl

theorem tallied_of_reached [EquivBEq κ] {settings : ControllerSettings} {c : Controller κ}
    {log : List (Note κ)} (reached : Reached settings c log) : c.Tallied settings log := by
  induction reached with
  | new fresh =>
      simp only [Controller.new] at fresh
      split at fresh
      · cases fresh
      · split at fresh
        · cases fresh
        · cases Except.ok.inj fresh
          exact ⟨rfl, fun _ => rfl, by simp, by simp [tallies, talliesAfter], by simp⟩
  | start reached idle tallied =>
      refine tallied.congr rfl rfl ?_ rfl rfl
      intro index key retryCount holding
      rw [start, List.getElem?_replicate] at holding
      split at holding <;> simp at holding
  | step reached step tallied => exact tallied_step tallied (coherent_of_reached reached) step

/-- The queue counts of every key how many passes for it have failed since the last one
that succeeded, and an event that ends no pass for a key leaves its count.  The history
keeps of the last passes how many failures in a row came before each of them, and calls
those retries that some failure came before.  A key that fails for the n-th time in a row
waits as long as the backoff says after one failure less, which lies in exact arithmetic
around the first delay doubled so often, or the longest one, as far as the jitter allows. -/
theorem retries_are_counted_exactly [EquivBEq κ] {settings : ControllerSettings}
    {c : Controller κ} {log : List (Note κ)} (reached : Reached settings c log) :
    (∀ key, c.queue.failureCount key = failuresInRow log key) ∧
    (∀ (event : ControllerEvent κ) (after : Controller κ), c.step? event = some after →
      ∀ key, (∀ other success,
        Note.ended other success ∈ c.notes event after → (other == key) = false) →
      after.queue.failureCount key = c.queue.failureCount key) ∧
    c.history.map PassRecord.tally = (tallies log).rtake c.capacity ∧
    (∀ record ∈ c.history, record.trigger = .retry ↔ 0 < record.retryCount) ∧
    (∀ (index : Nat) (report : PassReport) (random now : Float) (serial : Nat)
      (after : Controller κ), report.success = false →
      c.step? (.conclude index report random now serial) = some after →
      ∃ key n, c.notes (.conclude index report random now serial) after = [.ended key false] ∧
        n = failuresInRow (log ++ [.ended key false]) key ∧ 1 ≤ n ∧
        (c.queue.addRateLimited c.policy random key now serial).1 =
          settings.backoff.delay (n - 1) random ∧
        after.queue = (c.queue.addRateLimited c.policy random key now serial).2.finish key) ∧
    ∀ (α : Type) [Field α] [LinearOrder α] [IsStrictOrderedRing α] (backoff : Backoff α)
      (random : α) (n : Nat), 1 ≤ n → 0 < backoff.baseDelay →
      backoff.maxDelay ≤ backoff.baseDelay * 2 ^ 30 → 0 ≤ backoff.jitterFactor →
      0 ≤ random → random < 1 →
      backoff.delay (n - 1) random ∈
        Set.uIcc (backoff.value (n - 1) * (1 - backoff.jitterFactor))
          (backoff.value (n - 1) * (1 + backoff.jitterFactor)) := by
  have tallied := tallied_of_reached reached
  refine ⟨tallied.counts, ?_, tallied.history, tallied.triggers, ?_, ?_⟩
  · intro event after step key others
    have later := tallied_step tallied (coherent_of_reached reached) step
    rw [later.counts, tallied.counts, failuresInRow_append_of_others log _ key others]
  · intro index report random now serial after failed step
    cases steps_of_step? step with
    | concluded _ key retryCount _ _ _ _ holding =>
        refine ⟨key, _, by simp [notes, holding, failed], rfl, ?_⟩
        rw [failuresInRow_ended, if_pos BEq.rfl, if_neg Bool.false_ne_true,
          ← tallied.counts key, Nat.add_sub_cancel, ← tallied.policy]
        refine ⟨Nat.le_add_left 1 _, rfl, ?_⟩
        simp [setWorker, conclude, failed, remember]
  · intro α _ _ _ backoff random n _ base longest spread low high
    exact backoff.delay_mem_uIcc base longest spread low high (n - 1)

/-- A key is asked for again during its pass, which fails, and its second pass succeeds. -/
theorem retries_are_counted_exactly_of_a_retry :
    (∃ (c : Controller Nat) (log : List (Note Nat)),
      Reached ⟨30, 1, 10, ⟨1.0, 300.0, 0.1⟩⟩ c log ∧
      log = [.asked 7, .started 7, .asked 7, .ended 7 false, .started 7, .ended 7 true] ∧
      c.queue.failureCount 7 = failuresInRow log 7 ∧
      c.history.map PassRecord.tally = [⟨7, false, 0⟩, ⟨7, true, 1⟩] ∧
      ∀ record ∈ c.history, record.trigger = .retry ↔ 0 < record.retryCount) ∧
    (⟨1, 300, 1 / 10⟩ : Backoff ℚ).delay (3 - 1) (1 / 4) ∈
      Set.uIcc ((⟨1, 300, 1 / 10⟩ : Backoff ℚ).value (3 - 1) * (1 - 1 / 10))
        ((⟨1, 300, 1 / 10⟩ : Backoff ℚ).value (3 - 1) * (1 + 1 / 10)) := by
  let policy : Backoff Float := ⟨1.0, 300.0, 0.1⟩
  let failed : PassReport := .unexpected .tooDeep
  have started : Reached (κ := Nat) ⟨30, 1, 10, policy⟩ _ [] := .start (.new rfl) rfl
  have busy : Reached ⟨30, 1, 10, policy⟩
      ⟨⟨[], [7], [7], [], [], false, [], []⟩, policy, 1, 10, true, [.holding 7 0], []⟩
      [.asked 7, .started 7, .asked 7] :=
    reached_of_run? started [.enqueue 7, .poll 0, .enqueue 7] rfl
  -- the key is back in line whether or not its delay comes to nothing
  have concluded : ∃ timers, Reached ⟨30, 1, 10, policy⟩
      ⟨⟨[.key 7], [7], [], [(7, 1)], timers, false, [], []⟩, policy, 1, 10, true, [.ready],
        [recordOf 7 0 failed]⟩
      [.asked 7, .started 7, .asked 7, .ended 7 false] := by
    let counted : WorkQueue Nat := ⟨[], [7], [7], [(7, 1)], [], false, [], []⟩
    obtain ⟨timers, later⟩ : ∃ timers,
        counted.addAfter 7 (policy.delay 0 0.5) 0.0 0 = { counted with timers := timers } := by
      obtain ⟨closed, -⟩ | ⟨-, same⟩ | ⟨-, same⟩ :=
        counted.addAfter_cases 7 (policy.delay 0 0.5) 0.0 0
      · cases closed
      · exact ⟨_, same⟩
      · exact ⟨_, same⟩
    refine ⟨timers, reached_of_run? busy [.conclude 0 failed 0.5 0.0 0] ?_⟩
    change some (⟨(counted.addAfter 7 (policy.delay 0 0.5) 0.0 0).finish 7, policy, 1, 10, true,
      [.ready], [recordOf 7 0 failed]⟩ : Controller Nat) = _
    rw [later]
    rfl
  obtain ⟨timers, concluded⟩ := concluded
  have reached := reached_of_run? concluded [.poll 0, .conclude 0 (.succeeded [] false) 0.5 0.0 0]
    rfl
  obtain ⟨counts, -, history, triggers, -, bounds⟩ := retries_are_counted_exactly reached
  refine ⟨⟨_, _, reached, rfl, counts 7, history.trans rfl, triggers⟩, ?_⟩
  exact bounds ℚ ⟨1, 300, 1 / 10⟩ (1 / 4) 3 (by norm_num) (by norm_num) (by norm_num)
    (by norm_num) (by norm_num) (by norm_num)

end Controller

end AppOperator
