import AppOperator.Proofs.Queue.Shutdown

/-!
# The order of the work queue

The log of a queue says which keys became pending and which became available, which were
handed out, and which timers were set and went off.  What was handed out and what waits in
line are together what became available, in that order.  Every key that is handed out had
become pending, and it is pending now if it did so once more.  The timer of a key is the one
that was set last, unless it has gone off or the queue has been shut down.

Each event keeps these accounts balanced (`Balanced`), and so does every run.
-/

set_option autoImplicit false

namespace AppOperator

/-- An entry of the log of a queue. -/
inductive QueueNote (κ : Type) where
  /-- the key is asked for, which it was not before -/
  | accepted (key : κ)
  /-- the key can be handed out from now on -/
  | available (key : κ)
  | handed (key : κ)
  /-- a timer is set -/
  | armed (timer : Timer κ)
  /-- the timer of a key goes off -/
  | fired (key : κ)
  /-- the queue is shut down -/
  | closed

namespace QueueNote

variable {κ : Type}

def accepted? : QueueNote κ → Option κ
  | .accepted key => some key
  | _ => none

def available? : QueueNote κ → Option κ
  | .available key => some key
  | _ => none

def handed? : QueueNote κ → Option κ
  | .handed key => some key
  | _ => none

/-- The timer of a key after an entry of the log. -/
def timerAfter [BEq κ] (key : κ) (timer? : Option (Timer κ)) : QueueNote κ → Option (Timer κ)
  | .armed timer => if timer.key == key then some timer else timer?
  | .fired other => if other == key then none else timer?
  | .closed => none
  | _ => timer?

end QueueNote

section Log

variable {κ : Type} (log : List (QueueNote κ))

/-- The keys that were asked for, each time they became pending. -/
def acceptedIn : List κ :=
  log.filterMap QueueNote.accepted?

/-- The keys that could be handed out, each time they became available. -/
def availableIn : List κ :=
  log.filterMap QueueNote.available?

/-- The keys that were handed out, one after the other. -/
def handedIn : List κ :=
  log.filterMap QueueNote.handed?

/-- The timer of a key that was set last, unless it has gone off since or all have been
cancelled. -/
def timerIn [BEq κ] (key : κ) : Option (Timer κ) :=
  log.foldl (QueueNote.timerAfter key) none

end Log

/-- The key that an event is about. -/
def QueueEvent.key? {κ : Type} : QueueEvent κ → Option κ
  | .add key | .finish key | .addAfter key _ _ _ | .addRateLimited _ _ key _ _ | .forget key
  | .fire key => some key
  | .take _ | .retake _ | .shutdown => none

namespace WorkQueue

variable {κ : Type} [BEq κ]

/-- The key is asked for and nobody holds it, and the queue is open. -/
def isAvailable (q : WorkQueue κ) (key : κ) : Bool :=
  q.isPending key && !q.processing.contains key && !q.shuttingDown

/-- The timers that are set for a key. -/
def timersOf (q : WorkQueue κ) (key : κ) : List (Timer κ) :=
  q.timers.filter fun timer => timer.key == key

/-! ## The log -/

/-- What is noted of a key that pends or is available after an event and did not before. -/
def keyNotes (q : WorkQueue κ) (key : κ) (after : WorkQueue κ) : List (QueueNote κ) :=
  (if !q.isPending key && after.isPending key then [.accepted key] else []) ++
    (if !q.isAvailable key && after.isAvailable key then [.available key] else [])

/-- What is noted of a key that is to come back after a delay. -/
def delayNotes (q : WorkQueue κ) (key : κ) (delay now : Float) (serial : Nat) :
    List (QueueNote κ) :=
  if q.shuttingDown then []
  else if delay ≤ 0 then []
  else [.armed ⟨key, now + delay, serial⟩]

def timerNotes (q : WorkQueue κ) : QueueEvent κ → List (QueueNote κ)
  | .addAfter key delay now serial => q.delayNotes key delay now serial
  | .addRateLimited policy random key now serial =>
      q.delayNotes key (q.addRateLimited policy random key now serial).1 now serial
  | .fire key => [.fired key]
  | .shutdown => [.closed]
  | _ => []

def answerNotes : Option (Taken κ) → List (QueueNote κ)
  | some (.key key) => [.handed key]
  | _ => []

/-- What is noted of an event that leads from one queue to the next. -/
def notes (q : WorkQueue κ) (event : QueueEvent κ) (answer : Option (Taken κ))
    (after : WorkQueue κ) : List (QueueNote κ) :=
  q.timerNotes event ++ (event.key?.elim [] fun key => q.keyNotes key after) ++ answerNotes answer

omit [BEq κ] in
theorem answerNotes_none : (answerNotes none : List (QueueNote κ)) = [] := rfl

theorem notes_of_key (q : WorkQueue κ) {event : QueueEvent κ} {key : κ} (after : WorkQueue κ)
    (about : event.key? = some key) :
    q.notes event none after = q.timerNotes event ++ q.keyNotes key after := by
  rw [notes, about, answerNotes_none, List.append_nil]
  rfl

/-- The queues that can be come to while only holders finish, with the log of the way. -/
inductive Logged : WorkQueue κ → List (QueueNote κ) → Prop where
  | empty : Logged .empty []
  | step {q after : WorkQueue κ} {log : List (QueueNote κ)} {answer : Option (Taken κ)}
      (event : QueueEvent κ) (logged : Logged q log) (owned : q.Owned event)
      (performed : q.perform? event = some (answer, after)) :
      Logged after (log ++ q.notes event answer after)

theorem Logged.reached {q : WorkQueue κ} {log : List (QueueNote κ)} (logged : Logged q log) :
    q.Reached true := by
  induction logged with
  | empty => exact .empty
  | step event logged owned performed reached => exact reached.step (fun _ => owned) performed

/-- Every queue that can be come to has a log of the way there. -/
theorem Reached.exists_log {q : WorkQueue κ} (reached : q.Reached true) :
    ∃ log, Logged q log := by
  induction reached with
  | empty => exact ⟨[], .empty⟩
  | step reached owned performed logged =>
      obtain ⟨log, logged⟩ := logged
      exact ⟨_, logged.step _ (owned rfl) performed⟩

/-! ## Accounts of one event -/

/-- How often a key is pending: once or not at all. -/
def pendingCount (q : WorkQueue κ) (key : κ) : Nat :=
  (q.isPending key).toNat

/-- What entries of the log say of a queue before and after them. -/
structure Balanced (q : WorkQueue κ) (notes : List (QueueNote κ)) (after : WorkQueue κ) :
    Prop where
  line : handedIn notes ++ after.waiting = q.waiting ++ availableIn notes
  counts : ∀ key, (acceptedIn notes).countP (· == key) + q.pendingCount key =
    (handedIn notes).countP (· == key) + after.pendingCount key
  timers : ∀ (key : κ) (timer? : Option (Timer κ)), q.timersOf key = timer?.toList →
    after.timersOf key = (notes.foldl (QueueNote.timerAfter key) timer?).toList

namespace Balanced

variable {q middle after : WorkQueue κ} {notes more : List (QueueNote κ)}

theorem refl (q : WorkQueue κ) : Balanced q [] q :=
  ⟨by simp [handedIn, availableIn], by simp [handedIn, acceptedIn], fun _ _ same => same⟩

/-- Entries that follow on one another. -/
theorem trans (first : Balanced q notes middle) (second : Balanced middle more after) :
    Balanced q (notes ++ more) after := by
  refine ⟨?_, ?_, ?_⟩
  · have earlier := first.line
    have later := second.line
    simp only [handedIn, availableIn, List.filterMap_append] at earlier later ⊢
    rw [List.append_assoc, later, ← List.append_assoc, earlier, List.append_assoc]
  · intro key
    have earlier := first.counts key
    have later := second.counts key
    simp only [handedIn, acceptedIn, List.filterMap_append, List.countP_append] at earlier later ⊢
    omega
  · intro key timer? same
    rw [List.foldl_append]
    exact second.timers key _ (first.timers key timer? same)

/-- Nothing but line, pending keys and timers counts. -/
theorem of_rest (inner : after.inner = q.inner) (dirty : after.dirty = q.dirty)
    (timers : after.timers = q.timers) : Balanced q [] after := by
  refine ⟨?_, ?_, ?_⟩
  · simp only [handedIn, availableIn, WorkQueue.waiting, inner, List.filterMap_nil,
      List.nil_append, List.append_nil]
  · intro key
    simp only [handedIn, acceptedIn, pendingCount, isPending, dirty, List.filterMap_nil]
  · intro key timer? same
    rw [timersOf, timers]
    exact same

end Balanced

section Events

variable {q : WorkQueue κ} {key : κ}

theorem keyNotes_eq_nil {after : WorkQueue κ} (pending : after.isPending key = q.isPending key)
    (available : after.isAvailable key = true → q.isAvailable key = true) :
    q.keyNotes key after = [] := by
  rw [keyNotes, pending]
  cases before : q.isAvailable key with
  | true => simp
  | false =>
      cases now : after.isAvailable key with
      | true =>
          rw [available now] at before
          cases before
      | false => simp

/-- A key joins the line. -/
theorem balanced_put (q : WorkQueue κ) (key : κ) :
    Balanced q [.available key] (q.put (.key key)) := by
  refine ⟨waiting_put_key q key, ?_, ?_⟩
  · intro other
    rw [pendingCount, pendingCount, isPending, isPending, put_dirty]
    rfl
  · intro other timer? same
    rw [timersOf, put_timers]
    exact same

/-- The key at the head of the line is handed out, and it is pending no longer. -/
theorem balanced_hand_out [EquivBEq κ] (consistent : q.Consistent) {rest : List (Entry κ)}
    (head : q.inner = .key key :: rest) :
    Balanced q [.handed key] { q with
      inner := rest
      dirty := q.dirty.filter (· != key)
      processing := q.processing.filter (· != key) ++ [key] } := by
  refine ⟨?_, ?_, fun _ _ same => same⟩
  · have line : q.waiting = key :: rest.filterMap Entry.key? := by
      rw [WorkQueue.waiting, head, List.filterMap_cons]
      rfl
    rw [line, show availableIn [QueueNote.handed key] = [] from rfl, List.append_nil]
    rfl
  · intro other
    have asked : q.dirty.contains key = true :=
      consistent.dirty_of_waiting key (by simp [waiting, head, Entry.key?])
    change 0 + (q.dirty.contains other).toNat =
      [key].countP (· == other) + ((q.dirty.filter (· != key)).contains other).toNat
    rw [contains_filter_ne]
    cases same : key == other with
    | true =>
        rw [← List.contains_congr same, asked]
        simp [same, bne, BEq.symm same]
    | false =>
        have apart : (other == key) = false := by
          rw [BEq.comm]
          exact same
        simp [same, bne, apart]

section Timers

variable [EquivBEq κ]

/-- Taking the timers of a key away leaves those of all others. -/
theorem timersOf_filter_ne (q : WorkQueue κ) (key other : κ) :
    (q.timers.filter fun timer => timer.key != key).filter (fun timer => timer.key == other) =
      if key == other then [] else q.timersOf other := by
  rw [List.filter_filter]
  cases same : key == other with
  | true =>
      refine List.filter_eq_nil_iff.mpr ?_
      intro timer _
      rw [bne, ← BEq.congr_right same]
      cases timer.key == key <;> simp
  | false =>
      refine List.filter_congr ?_
      intro timer _
      cases agrees : timer.key == other with
      | false => rfl
      | true =>
          rw [bne, BEq.congr_left agrees, BEq.comm, same]
          rfl

/-- A timer is set in place of the one that was set for the key before. -/
theorem balanced_arm (q : WorkQueue κ) (timer : Timer κ) :
    Balanced q [.armed timer]
      { q with timers := (q.timers.filter fun other => other.key != timer.key) ++ [timer] } := by
  refine ⟨(List.append_nil q.waiting).symm, fun _ => rfl, ?_⟩
  intro other timer? before
  rw [timersOf, List.filter_append, timersOf_filter_ne, before, List.foldl_cons, List.foldl_nil,
    QueueNote.timerAfter]
  cases same : timer.key == other <;> simp [same]

/-- The timer of a key goes off. -/
theorem balanced_disarm (q : WorkQueue κ) (key : κ) :
    Balanced q [.fired key] { q with timers := q.timers.filter fun timer => timer.key != key } := by
  refine ⟨(List.append_nil q.waiting).symm, fun _ => rfl, ?_⟩
  intro other timer? before
  rw [timersOf, timersOf_filter_ne, before, List.foldl_cons, List.foldl_nil, QueueNote.timerAfter]
  cases key == other <;> rfl

end Timers

variable [EquivBEq κ]

/-- A key that was not asked for is asked for. -/
theorem balanced_accept (fresh : q.dirty.contains key = false) :
    Balanced q [.accepted key] { q with dirty := q.dirty ++ [key] } := by
  refine ⟨(List.append_nil q.waiting).symm, ?_, fun _ _ same => same⟩
  intro other
  change [key].countP (· == other) + (q.dirty.contains other).toNat =
    0 + ((q.dirty ++ [key]).contains other).toNat
  rw [List.contains_append]
  cases same : key == other with
  | true =>
      rw [List.contains_congr same] at fresh
      rw [fresh]
      simp [same, BEq.symm same]
  | false =>
      have apart : (other == key) = false := by
        rw [BEq.comm]
        exact same
      simp [same, apart]

/-- A key that is asked for becomes pending, and available if nobody holds it. -/
theorem balanced_add (q : WorkQueue κ) (key : κ) :
    Balanced q (q.keyNotes key (q.add key)) (q.add key) := by
  obtain ⟨-, same⟩ | ⟨opened, fresh, held, same⟩ | ⟨opened, fresh, free, same⟩ := add_cases q key
  · rw [same, keyNotes_eq_nil rfl id]
    exact .refl q
  · have noted : q.keyNotes key (q.add key) = [.accepted key] := by
      simp only [keyNotes, isAvailable, isPending, same, fresh, held, opened]
      simp
    rw [noted, same]
    exact balanced_accept fresh
  · have noted : q.keyNotes key (q.add key) = [.accepted key] ++ [.available key] := by
      simp only [keyNotes, isAvailable, isPending, same, put_dirty, put_processing,
        put_shuttingDown, fresh, free, opened]
      simp
    rw [noted, same]
    exact (balanced_accept fresh).trans (balanced_put _ key)

/-- The key that a holder finishes is available if it was asked for meanwhile. -/
theorem balanced_finish (held : q.processing.contains key = true) :
    Balanced q (q.keyNotes key (q.finish key)) (q.finish key) := by
  have released : Balanced q [] { q with processing := q.processing.filter (· != key) } :=
    .of_rest rfl rfl rfl
  cases again : q.dirty.contains key && !q.shuttingDown with
  | true =>
      have same : q.finish key =
          { q with processing := q.processing.filter (· != key) }.put (.key key) := by
        simp only [finish, again, if_true]
      have noted : q.keyNotes key (q.finish key) = [] ++ [.available key] := by
        rw [Bool.and_eq_true, Bool.not_eq_true'] at again
        simp only [keyNotes, isAvailable, isPending, finish_dirty, finish_processing,
          finish_shuttingDown, held, again, contains_filter_ne_self]
        simp
      rw [noted, same]
      exact released.trans (balanced_put _ key)
  | false =>
      have same : q.finish key = { q with processing := q.processing.filter (· != key) } := by
        simp only [finish, again, Bool.false_eq_true, if_false]
      have noted : q.keyNotes key (q.finish key) = [] := by
        refine keyNotes_eq_nil (by rw [isPending, isPending, finish_dirty]) ?_
        intro available
        simp only [isAvailable, isPending, finish_dirty, finish_shuttingDown] at available
        rw [Bool.and_right_comm, again, Bool.false_and] at available
        cases available
      rw [noted, same]
      exact released

/-- A key that is to come back after a delay has a timer from now on, or it is asked for. -/
theorem balanced_addAfter (q : WorkQueue κ) (key : κ) (delay now : Float) (serial : Nat) :
    Balanced q (q.delayNotes key delay now serial ++
        q.keyNotes key (q.addAfter key delay now serial))
      (q.addAfter key delay now serial) := by
  unfold addAfter delayNotes
  split
  · rw [keyNotes_eq_nil rfl id]
    exact .refl q
  · split
    · exact balanced_add q key
    · let timer : Timer κ := ⟨key, now + delay, serial⟩
      have noted : q.keyNotes key { q with
          timers := (q.timers.filter fun other => other.key != key) ++ [timer] } = [] :=
        keyNotes_eq_nil rfl id
      rw [noted]
      exact balanced_arm q timer

theorem balanced_fire (q : WorkQueue κ) (key : κ) :
    Balanced q ([.fired key] ++ q.keyNotes key (q.fire key)) (q.fire key) :=
  (balanced_disarm q key).trans (balanced_add _ key)

theorem balanced_take (consistent : q.Consistent) (caller : Nat) :
    Balanced q (answerNotes (some (q.take caller).1)) (q.take caller).2 := by
  obtain ⟨-, same⟩ | ⟨key, rest, head, same⟩ | ⟨rest, head, same⟩ := take_cases q caller
  · rw [same]
    exact .of_rest rfl rfl rfl
  · rw [same]
    exact balanced_hand_out consistent head
  · rw [same]
    refine .of_rest ?_ (put_dirty _ _) (put_timers _ _)
    rw [put_inner, head, consistent.inner_of_marker head, List.nil_append]

omit [EquivBEq κ] in
theorem balanced_shutdown (lively : q.Lively) : Balanced q [.closed] q.shutdown := by
  refine ⟨?_, ?_, ?_⟩
  · rw [waiting_shutdown]
    exact (List.append_nil q.waiting).symm
  · intro key
    rw [pendingCount, pendingCount, isPending, isPending, shutdown_dirty]
    rfl
  · intro key timer? same
    rw [timersOf, lively.shutdown.timers (shutdown_shuttingDown q)]
    rfl

/-- Every event keeps the accounts balanced. -/
theorem balanced_of_performs {after : WorkQueue κ} {event : QueueEvent κ}
    {answer : Option (Taken κ)} (consistent : q.Consistent) (lively : q.Lively)
    (owned : q.Owned event) (performed : Performs q event answer after) :
    Balanced q (q.notes event answer after) after := by
  cases performed with
  | added key =>
      rw [notes_of_key q _ rfl]
      exact balanced_add q key
  | taken caller => exact balanced_take consistent caller
  | retaken caller woken =>
      have left : Balanced q [] { q with woken := q.woken.erase caller } := .of_rest rfl rfl rfl
      have again : ({ q with woken := q.woken.erase caller } : WorkQueue κ).Consistent :=
        consistent.congr rfl rfl rfl rfl
      exact left.trans (balanced_take again caller)
  | finished key =>
      rw [notes_of_key q _ rfl]
      exact balanced_finish (owned key rfl)
  | delayed key delay now serial =>
      rw [notes_of_key q _ rfl]
      exact balanced_addAfter q key delay now serial
  | limited policy random key now serial =>
      rw [notes_of_key q _ rfl]
      -- the failure that is counted shows in none of the accounts
      let counted := q.setFailures key (q.failureCount key + 1)
      have counts : Balanced q [] counted := .of_rest rfl rfl rfl
      exact counts.trans (balanced_addAfter counted key _ now serial)
  | forgot key =>
      have noted : q.keyNotes key (q.forget key) = [] := keyNotes_eq_nil rfl id
      rw [notes_of_key q _ rfl, noted]
      exact .of_rest rfl rfl rfl
  | fired key armed =>
      rw [notes_of_key q _ rfl]
      exact balanced_fire q key
  | closed => exact balanced_shutdown lively

theorem balanced_of_logged {log : List (QueueNote κ)} (logged : Logged q log) :
    Balanced .empty log q := by
  induction logged with
  | empty => exact .refl .empty
  | step event logged owned performed balanced =>
      have reached := logged.reached
      exact balanced.trans (balanced_of_performs reached.consistent reached.lively owned
        (performs_of_perform? performed))

/-- Before a queue is shut down its line holds, each once, the keys that were asked for and
that nobody holds.  What has been handed out and what waits in line are what became available,
in that order; no key has been handed out more often than it was accepted; and a key has no
timer but the one that was set for it last, as long as that has not gone off. -/
theorem line_keeps_order {log : List (QueueNote κ)} (logged : Logged q log) :
    (q.shuttingDown = false →
      q.inner = q.waiting.map .key ∧ Distinct q.waiting ∧
        ∀ key, q.waiting.contains key = (q.isPending key && !q.processing.contains key)) ∧
    handedIn log ++ q.waiting = availableIn log ∧
    (∀ key, (handedIn log).countP (· == key) ≤ (acceptedIn log).countP (· == key)) ∧
    ∀ key, q.timersOf key = (timerIn log key).toList := by
  have consistent := logged.reached.consistent
  have balanced := balanced_of_logged logged
  refine ⟨?_, balanced.line, ?_, fun key => balanced.timers key none rfl⟩
  · intro opened
    have line := consistent.line
    rw [opened] at line
    refine ⟨by simpa using line, consistent.waitingDistinct, ?_⟩
    intro key
    rw [Bool.eq_iff_iff, Bool.and_eq_true, Bool.not_eq_true']
    constructor
    · intro waits
      exact ⟨consistent.dirty_of_waiting key waits, consistent.free_of_waiting key waits⟩
    · rintro ⟨asked, free⟩
      exact consistent.waiting_of_dirty opened key asked free
  · intro key
    have counts := balanced.counts key
    have none : (empty : WorkQueue κ).pendingCount key = 0 := rfl
    omega

end Events

/-- A key that is asked for while it is held goes to the end of the line when it is finished,
and another one is to come back later. -/
theorem line_keeps_order_of_a_key_asked_for_again :
    (∃ (q : WorkQueue Nat) (log : List (QueueNote Nat)), Logged q log ∧
      q.shuttingDown = false ∧ q.inner = q.waiting.map .key ∧
      handedIn log = [7] ∧ q.waiting = [8, 7] ∧ handedIn log ++ q.waiting = availableIn log ∧
      (handedIn log).countP (· == 7) ≤ (acceptedIn log).countP (· == 7)) ∧
    ∃ (q : WorkQueue Nat) (log : List (QueueNote Nat)), Logged q log ∧
      (q.isPending 9 = true ∨ q.isArmed 9 = true) ∧ q.timersOf 9 = (timerIn log 9).toList := by
  have first : Logged (_ : WorkQueue Nat) _ := .step (.add 7) .empty (by simp [Owned]) rfl
  have second := first.step (.add 8) (by simp [Owned]) rfl
  have held := second.step (.take 0) (by simp [Owned]) rfl
  have again := held.step (.add 7) (by simp [Owned]) rfl
  have finished := again.step (.finish 7) (by simp [Owned]; decide) rfl
  have delayed := finished.step (.addAfter 9 5.0 0.0 0) (by simp [Owned]) rfl
  obtain ⟨line, order, counts, -⟩ := line_keeps_order finished
  refine ⟨⟨_, _, finished, rfl, (line rfl).1, rfl, rfl, order, counts 7⟩, _, _, delayed, ?_, ?_⟩
  · exact dirty_or_armed_addAfter _ 9 5.0 0.0 0 rfl
  · exact (line_keeps_order delayed).2.2.2 9

end WorkQueue

end AppOperator
