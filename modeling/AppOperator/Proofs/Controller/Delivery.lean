import AppOperator.Proofs.Controller.Exclusion
import Mathlib.Data.List.Induction

/-!
# Nothing is lost

A key that was asked for stays pending until a pass for it starts, and a key whose
last pass failed is pending, held by a worker, or has a timer.  So when the line
is empty, nobody works and no timer is set, every key that was ever asked for has
had a pass after it was asked for last, and its last pass succeeded.

The log of a controller says what happened.  An entry of one kind is outstanding
when no entry of another kind has followed it.
-/

set_option autoImplicit false

namespace AppOperator

section Log

variable {ν : Type}

/-- The log has an entry of the first kind with none of the second kind after it. -/
def Outstanding (first second : ν → Prop) (log : List ν) : Prop :=
  ∃ before note after, log = before ++ note :: after ∧ first note ∧ ∀ later ∈ after, ¬second later

theorem not_outstanding_nil (first second : ν → Prop) : ¬Outstanding first second [] := by
  rintro ⟨before, note, after, split, -⟩
  simp at split

theorem outstanding_concat (first second : ν → Prop) (log : List ν) (note : ν) :
    Outstanding first second (log ++ [note]) ↔
      first note ∨ (Outstanding first second log ∧ ¬second note) := by
  constructor
  · rintro ⟨before, found, after, split, isFirst, none⟩
    rcases List.eq_nil_or_concat after with rfl | ⟨middle, last, rfl⟩
    · rw [List.append_singleton_inj] at split
      rw [split.2]
      exact Or.inl isFirst
    · have split : log ++ [note] = (before ++ found :: middle) ++ [last] := by
        rw [split]
        simp
      obtain ⟨rfl, rfl⟩ := List.append_singleton_inj.mp split
      refine Or.inr ⟨⟨before, found, middle, rfl, isFirst, ?_⟩, ?_⟩
      · intro later member
        exact none later (by simp [member])
      · exact none note (by simp)
  · rintro (isFirst | ⟨⟨before, found, after, rfl, isFirst, none⟩, notSecond⟩)
    · exact ⟨log, note, [], rfl, isFirst, by simp⟩
    · refine ⟨before, found, after ++ [note], by simp, isFirst, ?_⟩
      intro later member
      rcases List.mem_append.mp member with member | last
      · exact none later member
      · rw [List.mem_singleton.mp last]
        exact notSecond

/-- When no entry of the first kind is outstanding but there is one, an entry of the
second kind has followed the last of them. -/
theorem outstanding_of_answered {first second : ν → Prop} {log : List ν}
    (present : ∃ note ∈ log, first note) (answered : ¬Outstanding first second log) :
    Outstanding second first log := by
  induction log using List.reverseRecOn with
  | nil =>
      obtain ⟨note, member, -⟩ := present
      simp at member
  | append_singleton log last ih =>
      rw [outstanding_concat] at answered ⊢
      obtain ⟨notFirst, earlier⟩ := not_or.mp answered
      by_cases isSecond : second last
      · exact Or.inl isSecond
      · refine Or.inr ⟨ih ?_ fun open_ => earlier ⟨open_, isSecond⟩, notFirst⟩
        obtain ⟨note, member, isFirst⟩ := present
        rcases List.mem_append.mp member with member | atEnd
        · exact ⟨note, member, isFirst⟩
        · rw [List.mem_singleton.mp atEnd] at isFirst
          exact absurd isFirst notFirst

/-- The last entry of a kind. -/
theorem outstanding_self {kind : ν → Prop} {log : List ν} (present : ∃ note ∈ log, kind note) :
    Outstanding kind kind log := by
  by_contra answered
  exact answered (outstanding_of_answered present answered)

theorem Outstanding.exists_mem {first second : ν → Prop} {log : List ν}
    (outstanding : Outstanding first second log) : ∃ note ∈ log, first note := by
  obtain ⟨before, note, after, rfl, isFirst, -⟩ := outstanding
  exact ⟨note, by simp, isFirst⟩

end Log

namespace Note

variable {κ : Type} [BEq κ]

def IsAsked (key : κ) : Note κ → Prop
  | .asked other => (other == key) = true
  | _ => False

def IsStarted (key : κ) : Note κ → Prop
  | .started other => (other == key) = true
  | _ => False

def IsEnded (key : κ) : Note κ → Prop
  | .ended other _ => (other == key) = true
  | _ => False

/-- A pass for the key has ended with the given success. -/
def IsOutcome (success : Bool) (key : κ) : Note κ → Prop
  | .ended other actual => (other == key) = true ∧ actual = success
  | _ => False

end Note

section Keys

variable {κ : Type} [BEq κ]

/-- The key was asked for and no pass for it has started since. -/
def AwaitsPass (log : List (Note κ)) (key : κ) : Prop :=
  Outstanding (Note.IsAsked key) (Note.IsStarted key) log

/-- A pass for the key has started and not ended. -/
def InPass (log : List (Note κ)) (key : κ) : Prop :=
  Outstanding (Note.IsStarted key) (Note.IsEnded key) log

/-- The last pass for the key that has ended had this success. -/
def LastOutcome (success : Bool) (log : List (Note κ)) (key : κ) : Prop :=
  Outstanding (Note.IsOutcome success key) (Note.IsEnded key) log

/-- A pass for the key has started and it has not been asked for since. -/
def ServedSinceAsked (log : List (Note κ)) (key : κ) : Prop :=
  Outstanding (Note.IsStarted key) (Note.IsAsked key) log

end Keys

namespace Controller

variable {κ : Type} [BEq κ]

/-- What the log asks for is on its way: by the queue while it is open, and by the
workers at any time. -/
structure Accounted (c : Controller κ) (log : List (Note κ)) : Prop where
  asked : c.queue.shuttingDown = false → ∀ key, AwaitsPass log key →
    c.queue.dirty.contains key = true
  failed : c.queue.shuttingDown = false → ∀ key, LastOutcome false log key →
    c.queue.dirty.contains key = true ∨ c.queue.processing.contains key = true ∨
      c.queue.isArmed key = true
  running : ∀ key, InPass log key → c.queue.processing.contains key = true

namespace Accounted

variable {c after : Controller κ} {log : List (Note κ)}

/-- Nothing is noted and nothing on its way is dropped. -/
theorem grow (accounted : c.Accounted log)
    (closed : c.queue.shuttingDown = true → after.queue.shuttingDown = true)
    (dirty : ∀ key, c.queue.dirty.contains key = true → after.queue.dirty.contains key = true)
    (held : ∀ key, c.queue.processing.contains key = true →
      after.queue.processing.contains key = true)
    (armed : after.queue.shuttingDown = false → ∀ key, c.queue.isArmed key = true →
      after.queue.dirty.contains key = true ∨ after.queue.isArmed key = true) :
    after.Accounted log := by
  have opened : after.queue.shuttingDown = false → c.queue.shuttingDown = false := by
    intro stillOpen
    apply Bool.eq_false_iff.mpr
    intro shut
    rw [closed shut] at stillOpen
    cases stillOpen
  refine ⟨?_, ?_, ?_⟩
  · intro stillOpen key awaits
    exact dirty key (accounted.asked (opened stillOpen) key awaits)
  · intro stillOpen key failed
    rcases accounted.failed (opened stillOpen) key failed with asked | inHand | set
    · exact Or.inl (dirty key asked)
    · exact Or.inr (Or.inl (held key inHand))
    · rcases armed stillOpen key set with asked | stillSet
      · exact Or.inl asked
      · exact Or.inr (Or.inr stillSet)
  · intro key inPass
    exact held key (accounted.running key inPass)

/-- A queue that is the same in all that counts. -/
theorem congr (accounted : c.Accounted log)
    (closed : after.queue.shuttingDown = c.queue.shuttingDown)
    (dirty : after.queue.dirty = c.queue.dirty)
    (held : after.queue.processing = c.queue.processing)
    (timers : after.queue.timers = c.queue.timers) : after.Accounted log := by
  apply accounted.grow
  · rw [closed]
    exact id
  · rw [dirty]
    exact fun _ => id
  · rw [held]
    exact fun _ => id
  · intro _ key armed
    rw [WorkQueue.isArmed, timers]
    exact Or.inr armed

variable [EquivBEq κ]

theorem enqueue (accounted : c.Accounted log) (key : κ) :
    (c.enqueue key).Accounted (log ++ [.asked key]) := by
  have kept : (c.enqueue key).Accounted log := by
    apply accounted.grow
    · simp [Controller.enqueue]
    · exact fun other => WorkQueue.dirty_add c.queue key
    · simp [Controller.enqueue]
    · intro _ other armed
      exact Or.inr (by simpa [Controller.enqueue, WorkQueue.isArmed] using armed)
  refine ⟨?_, ?_, ?_⟩
  · intro opened other awaits
    rcases (outstanding_concat _ _ _ _).mp awaits with same | ⟨earlier, -⟩
    · have opened : c.queue.shuttingDown = false := by
        simpa [Controller.enqueue] using opened
      rw [← List.contains_congr same]
      exact WorkQueue.dirty_add_self c.queue key opened
    · exact kept.asked opened other earlier
  · intro opened other failed
    rcases (outstanding_concat _ _ _ _).mp failed with impossible | ⟨earlier, -⟩
    · exact impossible.elim
    · exact kept.failed opened other earlier
  · intro other inPass
    rcases (outstanding_concat _ _ _ _).mp inPass with impossible | ⟨earlier, -⟩
    · exact impossible.elim
    · exact kept.running other earlier

theorem fire (accounted : c.Accounted log) (key : κ) :
    ({ c with queue := c.queue.fire key } : Controller κ).Accounted log := by
  apply accounted.grow
  · simp [WorkQueue.fire]
  · exact fun other asked => WorkQueue.dirty_add _ key asked
  · simp [WorkQueue.fire]
  · intro opened other armed
    cases same : other == key with
    | true =>
        refine Or.inl ?_
        change (c.queue.fire key).dirty.contains other = true
        rw [List.contains_congr same]
        exact WorkQueue.dirty_add_self _ key (by simpa [WorkQueue.fire] using opened)
    | false =>
        obtain ⟨timer, member, agrees⟩ := List.any_eq_true.mp armed
        have apart : (timer.key == key) = false := by
          rw [BEq.congr_left agrees]
          exact same
        refine Or.inr (List.any_eq_true.mpr ⟨timer, ?_, agrees⟩)
        simp [WorkQueue.fire, member, bne, apart]

/-- A key is handed out: it is dirty no longer, and a pass for it has started. -/
theorem hand_out (accounted : c.Accounted log) {key : κ}
    (closed : after.queue.shuttingDown = c.queue.shuttingDown)
    (dirty : after.queue.dirty = c.queue.dirty.filter (· != key))
    (held : after.queue.processing = c.queue.processing.filter (· != key) ++ [key])
    (timers : after.queue.timers = c.queue.timers) :
    after.Accounted (log ++ [.started key]) := by
  have taken : ∀ other, (c.queue.processing.contains other = true ∨ (other == key) = true) →
      after.queue.processing.contains other = true := by
    intro other reason
    rw [held, List.contains_append, contains_filter_ne]
    cases same : other == key with
    | true => simp [same]
    | false =>
        rcases reason with inHand | agrees
        · rw [inHand]
          simp [bne, same]
        · rw [same] at agrees
          cases agrees
  refine ⟨?_, ?_, ?_⟩
  · intro opened other awaits
    rw [closed] at opened
    rcases (outstanding_concat _ _ _ _).mp awaits with impossible | ⟨earlier, different⟩
    · exact impossible.elim
    · have apart : (other == key) = false := by
        rw [BEq.comm]
        exact Bool.eq_false_iff.mpr different
      rw [dirty, contains_filter_ne, accounted.asked opened other earlier]
      simp [bne, apart]
  · intro opened other failed
    rw [closed] at opened
    rcases (outstanding_concat _ _ _ _).mp failed with impossible | ⟨earlier, -⟩
    · exact impossible.elim
    · rcases accounted.failed opened other earlier with asked | inHand | armed
      · cases same : other == key with
        | true => exact Or.inr (Or.inl (taken other (Or.inr same)))
        | false =>
            refine Or.inl ?_
            rw [dirty, contains_filter_ne, asked]
            simp [bne, same]
      · exact Or.inr (Or.inl (taken other (Or.inl inHand)))
      · refine Or.inr (Or.inr ?_)
        rw [WorkQueue.isArmed, timers]
        exact armed
  · intro other inPass
    rcases (outstanding_concat _ _ _ _).mp inPass with same | ⟨earlier, -⟩
    · exact taken other (Or.inr (BEq.symm same))
    · exact taken other (Or.inl (accounted.running other earlier))

/-- A worker asks the queue; a pass starts if it gets a key. -/
theorem give (accounted : c.Accounted log) {index : Nat} {worker : Worker κ}
    (here : c.workers[index]? = some worker) :
    (c.give index (c.queue.take index)).Accounted
      (log ++ (c.give index (c.queue.take index)).startedBy index) := by
  obtain ⟨bound, -⟩ := List.getElem?_eq_some_iff.mp here
  rw [startedBy_give bound]
  obtain ⟨-, same⟩ | ⟨key, rest, -, same⟩ | ⟨rest, -, same⟩ := c.queue.take_cases index
  · rw [same, List.append_nil]
    exact accounted.congr rfl rfl rfl rfl
  · rw [same]
    exact accounted.hand_out rfl rfl rfl rfl
  · rw [same, List.append_nil]
    exact accounted.congr (WorkQueue.put_shuttingDown _ _) (WorkQueue.put_dirty _ _)
      (WorkQueue.put_processing _ _) (WorkQueue.put_timers _ _)

/-- A pass has ended and its key is brought back if it failed; then the key is released. -/
theorem release (accounted : c.Accounted log) {key : κ} {success : Bool}
    (failed : success = false → c.queue.shuttingDown = false →
      c.queue.dirty.contains key = true ∨ c.queue.isArmed key = true)
    (queue : after.queue = c.queue.finish key) :
    after.Accounted (log ++ [.ended key success]) := by
  have closed : after.queue.shuttingDown = c.queue.shuttingDown := by
    rw [queue, WorkQueue.finish_shuttingDown]
  have dirty : after.queue.dirty = c.queue.dirty := by
    rw [queue, WorkQueue.finish_dirty]
  have armed : ∀ other, after.queue.isArmed other = c.queue.isArmed other := by
    intro other
    rw [queue, WorkQueue.isArmed, WorkQueue.finish_timers, WorkQueue.isArmed]
  have held : ∀ other, (key == other) = false → c.queue.processing.contains other = true →
      after.queue.processing.contains other = true := by
    intro other different inHand
    rw [BEq.comm] at different
    rw [queue, WorkQueue.finish_processing, contains_filter_ne, inHand]
    simp [bne, different]
  refine ⟨?_, ?_, ?_⟩
  · intro opened other awaits
    rw [closed] at opened
    rcases (outstanding_concat _ _ _ _).mp awaits with impossible | ⟨earlier, -⟩
    · exact impossible.elim
    · rw [dirty]
      exact accounted.asked opened other earlier
  · intro opened other lastFailed
    rw [closed] at opened
    rw [dirty, armed]
    rcases (outstanding_concat _ _ _ _).mp lastFailed with ⟨same, now⟩ | ⟨earlier, different⟩
    · rw [← List.contains_congr same]
      rcases failed now opened with asked | set
      · exact Or.inl asked
      · refine Or.inr (Or.inr ?_)
        obtain ⟨timer, member, agrees⟩ := List.any_eq_true.mp set
        exact List.any_eq_true.mpr ⟨timer, member, BEq.trans agrees same⟩
    · rcases accounted.failed opened other earlier with asked | inHand | set
      · exact Or.inl asked
      · exact Or.inr (Or.inl (held other (Bool.eq_false_iff.mpr different) inHand))
      · exact Or.inr (Or.inr set)
  · intro other inPass
    rcases (outstanding_concat _ _ _ _).mp inPass with impossible | ⟨earlier, different⟩
    · exact impossible.elim
    · exact held other (Bool.eq_false_iff.mpr different) (accounted.running other earlier)

/-- Counting a failure drops nothing: the timer of the key gives way to a new one or
to the key being asked for. -/
theorem addRateLimited (accounted : c.Accounted log) (random now : Float) (key : κ)
    (serial : Nat) :
    ({ c with queue := (c.queue.addRateLimited c.policy random key now serial).2 } :
      Controller κ).Accounted log := by
  let counted := c.queue.setFailures key (c.queue.failureCount key + 1)
  let delay := c.policy.delay (c.queue.failureCount key) random
  have queue : (c.queue.addRateLimited c.policy random key now serial).2 =
      counted.addAfter key delay now serial := rfl
  rw [queue]
  apply accounted.grow
  · exact fun closed => (WorkQueue.addAfter_shuttingDown counted key delay now serial).trans closed
  · exact fun other => WorkQueue.dirty_addAfter counted key delay now serial
  · intro other inHand
    rw [WorkQueue.addAfter_processing]
    exact inHand
  · intro opened other armed
    rw [WorkQueue.addAfter_shuttingDown] at opened
    cases same : other == key with
    | true =>
        rcases WorkQueue.dirty_or_armed_addAfter counted key delay now serial opened with asked | set
        · rw [List.contains_congr same]
          exact Or.inl asked
        · obtain ⟨timer, member, agrees⟩ := List.any_eq_true.mp set
          exact Or.inr (List.any_eq_true.mpr ⟨timer, member, BEq.trans agrees (BEq.symm same)⟩)
    | false => exact Or.inr (WorkQueue.isArmed_addAfter counted key delay now serial same armed)

/-- A pass ends with its report, and its worker is ready again. -/
theorem conclude (accounted : c.Accounted log) (index : Nat) (key : κ) (retryCount : Nat)
    (report : PassReport) (random now : Float) (serial : Nat) :
    ({ c.conclude key retryCount report random now serial with
        queue := (c.conclude key retryCount report random now serial).queue.finish key
      }.setWorker index .ready).Accounted (log ++ [Note.ended key report.success]) := by
  have concluded : (c.conclude key retryCount report random now serial).Accounted log := by
    unfold Controller.conclude
    split
    · exact accounted.congr rfl rfl rfl rfl
    · exact (accounted.addRateLimited random now key serial).congr rfl rfl rfl rfl
  refine concluded.release ?_ rfl
  intro failed opened
  unfold Controller.conclude at opened ⊢
  rw [if_neg (by simp [failed])] at opened ⊢
  exact WorkQueue.dirty_or_armed_addAfter _ key _ now serial
    ((WorkQueue.addAfter_shuttingDown _ _ _ _ _).symm.trans opened)

end Accounted

theorem accounted_step [EquivBEq κ] {c after : Controller κ} {log : List (Note κ)}
    {event : ControllerEvent κ} (accounted : c.Accounted log) (step : c.step? event = some after) :
    after.Accounted (log ++ c.notes event after) := by
  cases steps_of_step? step with
  | asked key => exact accounted.enqueue key
  | left index ready =>
      obtain ⟨bound, -⟩ := List.getElem?_eq_some_iff.mp ready
      have quiet : (c.setWorker index .exited).startedBy index = [] := by
        simp [startedBy, setWorker, bound]
      rw [notes, quiet, List.append_nil]
      exact accounted.congr rfl rfl rfl rfl
  | polled index ready => exact accounted.give ready
  | woken index waiting =>
      have again : ({ c with queue := { c.queue with
          woken := c.queue.woken.erase index } } : Controller κ).Accounted log :=
        accounted.congr rfl rfl rfl rfl
      exact again.give waiting
  | concluded index key retryCount report random now serial holding =>
      have ended : ∀ next, c.notes (.conclude index report random now serial) next =
          [.ended key report.success] := by
        simp [notes, holding]
      rw [ended]
      exact accounted.conclude index key retryCount report random now serial
  | fired key armed =>
      rw [notes, List.append_nil]
      exact accounted.fire key
  | stopped =>
      rw [notes, List.append_nil]
      apply accounted.grow
      · exact fun _ => WorkQueue.shutdown_shuttingDown _
      · exact fun key asked => by rwa [stop, WorkQueue.shutdown_dirty]
      · exact fun key inHand => by rwa [stop, WorkQueue.shutdown_processing]
      · intro opened
        rw [stop, WorkQueue.shutdown_shuttingDown] at opened
        cases opened

theorem accounted_of_reached [EquivBEq κ] {settings : ControllerSettings} {c : Controller κ}
    {log : List (Note κ)} (reached : Reached settings c log) : c.Accounted log := by
  induction reached with
  | new fresh =>
      refine ⟨?_, ?_, ?_⟩
      · exact fun _ key awaits => absurd awaits (not_outstanding_nil _ _)
      · exact fun _ key failed => absurd failed (not_outstanding_nil _ _)
      · exact fun key inPass => absurd inPass (not_outstanding_nil _ _)
  | start reached idle accounted => exact accounted.congr rfl rfl rfl rfl
  | step reached step accounted => exact accounted_step accounted step

/-! ## What follows for requests and failures -/

/-- The worker holds the key, and whatever its pass comes to, the key waits in line
as soon as the pass has ended. -/
def ReturnsToLine (c : Controller κ) (index : Nat) (key : κ) : Prop :=
  (∃ same retryCount, c.workers[index]? = some (.holding same retryCount) ∧ (same == key) = true) ∧
  ∀ (report : PassReport) (random now : Float) (serial : Nat), ∃ after,
    c.step? (.conclude index report random now serial) = some after ∧
      after.queue.waiting.contains key = true

/-- A dirty key of an open queue that a worker holds goes back in line when it is done. -/
theorem returnsToLine_of_held [EquivBEq κ] {c : Controller κ} {key : κ}
    (opened : c.queue.shuttingDown = false) (asked : c.queue.dirty.contains key = true)
    (inHand : c.held.contains key = true) : ∃ index, c.ReturnsToLine index key := by
  obtain ⟨same, member, agrees⟩ := List.contains_iff_exists_mem_beq.mp inHand
  obtain ⟨worker, present, holds⟩ := List.mem_filterMap.mp member
  obtain ⟨index, here⟩ := List.mem_iff_getElem?.mp present
  cases worker with
  | holding holdsKey retryCount =>
      cases Option.some.inj holds
      have agrees := BEq.symm agrees
      refine ⟨index, ⟨same, retryCount, here, agrees⟩, ?_⟩
      intro report random now serial
      let concluded := c.conclude same retryCount report random now serial
      refine ⟨{ concluded with queue := concluded.queue.finish same }.setWorker index .ready,
        by simp only [step?, here]; rfl, ?_⟩
      change (concluded.queue.finish same).waiting.contains key = true
      rw [← List.contains_congr agrees]
      rw [← List.contains_congr agrees] at asked
      apply WorkQueue.waiting_finish
      · simp only [concluded, Controller.conclude]
        split
        · exact opened
        · exact (WorkQueue.addAfter_shuttingDown _ _ _ _ _).trans opened
      · simp only [concluded, Controller.conclude]
        split
        · exact asked
        · exact WorkQueue.dirty_addAfter _ _ _ _ _ asked
  | ready => cases holds
  | waiting => cases holds
  | exited => cases holds

/-- While the queue is open, what was asked for and has not been served is pending,
in line or sure to return there, and a key whose last pass failed is pending, held,
or has a timer.  Once nothing is in line, in hand or set, every key that was ever asked
for has been served since, no pass for it is under way, and its last pass succeeded. -/
theorem nothing_is_lost [EquivBEq κ] {settings : ControllerSettings} {c : Controller κ}
    {log : List (Note κ)} (reached : Reached settings c log) :
    (c.queue.shuttingDown = false → ∀ key,
      (AwaitsPass log key → c.queue.isPending key = true ∧
        (c.queue.waiting.contains key = true ∨ ∃ index, c.ReturnsToLine index key)) ∧
      (LastOutcome false log key →
        c.queue.isPending key = true ∨ c.held.contains key = true ∨
          c.queue.isArmed key = true)) ∧
    (c.queue.inner = [] → c.held = [] → c.queue.timers = [] → ∀ key,
      (∃ note ∈ log, Note.IsAsked key note) →
        ServedSinceAsked log key ∧ ¬InPass log key ∧ LastOutcome true log key) := by
  have coherent := coherent_of_reached reached
  have accounted := accounted_of_reached reached
  constructor
  · intro opened key
    constructor
    · intro awaits
      have asked := accounted.asked opened key awaits
      refine ⟨asked, ?_⟩
      cases inHand : c.held.contains key with
      | true => exact Or.inr (returnsToLine_of_held opened asked inHand)
      | false =>
          rw [coherent.contains_held] at inHand
          exact Or.inl (coherent.queue.waiting_of_dirty opened key asked inHand)
    · intro failed
      rw [coherent.contains_held]
      exact accounted.failed opened key failed
  · intro empty idle unarmed key present
    have opened : c.queue.shuttingDown = false := by
      apply Bool.eq_false_iff.mpr
      intro closed
      have line := coherent.queue.line
      rw [empty, closed] at line
      simp at line
    have free : ∀ other, c.queue.processing.contains other = false := by
      intro other
      rw [← coherent.contains_held, idle]
      rfl
    have clean : ∀ other, c.queue.dirty.contains other = false := by
      intro other
      apply Bool.eq_false_iff.mpr
      intro asked
      have inLine := coherent.queue.waiting_of_dirty opened other asked (free other)
      rw [WorkQueue.waiting, empty] at inLine
      cases inLine
    have served : ¬AwaitsPass log key := by
      intro awaits
      have asked := accounted.asked opened key awaits
      rw [clean] at asked
      cases asked
    have settled : ¬InPass log key := by
      intro inPass
      have inHand := accounted.running key inPass
      rw [free] at inHand
      cases inHand
    have notFailed : ¬LastOutcome false log key := by
      intro failed
      rcases accounted.failed opened key failed with asked | inHand | armed
      · rw [clean] at asked
        cases asked
      · rw [free] at inHand
        cases inHand
      · rw [WorkQueue.isArmed, unarmed] at armed
        cases armed
    have begun : ServedSinceAsked log key := outstanding_of_answered present served
    have ended : Outstanding (Note.IsEnded key) (Note.IsStarted key) log :=
      outstanding_of_answered begun.exists_mem settled
    refine ⟨begun, settled, ?_⟩
    obtain ⟨before, note, later, split, isEnded, last⟩ := outstanding_self ended.exists_mem
    cases note with
    | ended other success =>
        cases success with
        | true => exact ⟨before, _, later, split, ⟨isEnded, rfl⟩, last⟩
        | false => exact absurd ⟨before, _, later, split, ⟨isEnded, rfl⟩, last⟩ notFailed
    | asked other => exact isEnded.elim
    | started other => exact isEnded.elim

/-- A key that is asked for during its pass, another whose pass has failed, and a
controller that has come to rest. -/
theorem nothing_is_lost_at_work_and_at_rest :
    (∃ (c : Controller Nat) (log : List (Note Nat)),
      Reached ⟨30, 2, 10, ⟨1.0, 300.0, 0.1⟩⟩ c log ∧ c.queue.shuttingDown = false ∧
      AwaitsPass log 7 ∧ LastOutcome false log 8 ∧ c.queue.isPending 7 = true ∧
      (c.queue.waiting.contains 7 = true ∨ ∃ index, c.ReturnsToLine index 7) ∧
      (c.queue.isPending 8 = true ∨ c.held.contains 8 = true ∨ c.queue.isArmed 8 = true)) ∧
    (∃ (c : Controller Nat) (log : List (Note Nat)),
      Reached ⟨30, 2, 10, ⟨1.0, 300.0, 0.1⟩⟩ c log ∧
      c.queue.inner = [] ∧ c.held = [] ∧ c.queue.timers = [] ∧ (∃ note ∈ log, note.IsAsked 7) ∧
      ServedSinceAsked log 7 ∧ ¬InPass log 7 ∧ LastOutcome true log 7) := by
  have started : Reached (κ := Nat) ⟨30, 2, 10, ⟨1.0, 300.0, 0.1⟩⟩ _ [] := .start (.new rfl) rfl
  constructor
  · let policy : Backoff Float := ⟨1.0, 300.0, 0.1⟩
    let queue : WorkQueue Nat := ⟨[], [7], [8, 7], [], [], false, [], []⟩
    have busy : Reached ⟨30, 2, 10, policy⟩
        ⟨queue, policy, 2, 10, true, [.holding 8 0, .holding 7 0], []⟩
        [.asked 8, .asked 7, .started 8, .started 7, .asked 7] :=
      reached_of_run? started [.enqueue 8, .enqueue 7, .poll 0, .poll 1, .enqueue 7] rfl
    have reached := reached_of_run? busy [.conclude 0 (.unexpected .tooDeep) 0.5 0.0 0] rfl
    have awaits : AwaitsPass [Note.asked 8, .asked 7, .started 8, .started 7, .asked 7,
        .ended 8 false] 7 :=
      ⟨[.asked 8, .asked 7, .started 8, .started 7], .asked 7, [.ended 8 false], rfl, rfl,
        by simp [Note.IsStarted]⟩
    have failed : LastOutcome false [Note.asked 8, .asked 7, .started 8, .started 7, .asked 7,
        .ended 8 false] 8 :=
      ⟨[.asked 8, .asked 7, .started 8, .started 7, .asked 7], .ended 8 false, [], rfl,
        ⟨rfl, rfl⟩, by simp⟩
    have opened := (WorkQueue.finish_shuttingDown _ 8).trans
      (WorkQueue.addAfter_shuttingDown (queue.setFailures 8 1) 8 (policy.delay 0 0.5) 0.0 0)
    have kept := (nothing_is_lost reached).1 opened
    exact ⟨_, _, reached, opened, awaits, failed, ((kept 7).1 awaits).1, ((kept 7).1 awaits).2,
      (kept 8).2 failed⟩
  · have reached := reached_of_run? started
      [.enqueue 7, .poll 0, .conclude 0 (.succeeded [] false) 0.5 0.0 0, .poll 0] rfl
    have present : ∃ note ∈ [Note.asked 7, .started 7, .ended 7 true], note.IsAsked 7 :=
      ⟨.asked 7, by simp, rfl⟩
    exact ⟨_, _, reached, rfl, rfl, rfl, present, (nothing_is_lost reached).2 rfl rfl rfl 7 present⟩

end Controller

end AppOperator
