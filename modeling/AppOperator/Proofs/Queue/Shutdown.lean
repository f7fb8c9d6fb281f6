import AppOperator.Proofs.Queue.Consistency

/-!
# Shutting the queue down

What can be asked of a queue is one `QueueEvent` after another, in any order.  At
any time an entry of the line has woken somebody, as long as anybody is blocked
(`Lively`).  Once the queue has been shut down its line ends with the one marker,
which never leaves, so that every caller who tries is answered, and a caller who
meets the marker wakes the next one.
-/

set_option autoImplicit false

namespace AppOperator

/-- What can be asked of a queue. -/
inductive QueueEvent (κ : Type) where
  | add (key : κ)
  | take (caller : Nat)
  /-- a woken caller tries again -/
  | retake (caller : Nat)
  | finish (key : κ)
  | addAfter (key : κ) (delay now : Float) (serial : Nat)
  | addRateLimited (policy : Backoff Float) (random : Float) (key : κ) (now : Float) (serial : Nat)
  | forget (key : κ)
  /-- a timer goes off -/
  | fire (key : κ)
  | shutdown

namespace QueueEvent

variable {κ : Type}

def isGet : QueueEvent κ → Bool
  | .take _ | .retake _ => true
  | _ => false

def retakers (events : List (QueueEvent κ)) : List Nat :=
  events.filterMap fun
    | .retake caller => some caller
    | _ => none

end QueueEvent

namespace WorkQueue

variable {κ : Type} [BEq κ]

/-- The queue after an event, if the event can happen, and the answer to a caller. -/
def perform? (q : WorkQueue κ) : QueueEvent κ → Option (Option (Taken κ) × WorkQueue κ)
  | .add key => some (none, q.add key)
  | .take caller => some (some (q.take caller).1, (q.take caller).2)
  | .retake caller =>
      if caller ∈ q.woken then some (some (q.retake caller).1, (q.retake caller).2) else none
  | .finish key => some (none, q.finish key)
  | .addAfter key delay now serial => some (none, q.addAfter key delay now serial)
  | .addRateLimited policy random key now serial =>
      some (none, (q.addRateLimited policy random key now serial).2)
  | .forget key => some (none, q.forget key)
  | .fire key => if q.isArmed key then some (none, q.fire key) else none
  | .shutdown => some (none, q.shutdown)

/-- The queue after a list of events, if each can happen in its turn, and the answers to
the callers, in order. -/
def performAll? (q : WorkQueue κ) : List (QueueEvent κ) → Option (List (Taken κ) × WorkQueue κ)
  | [] => some ([], q)
  | event :: rest =>
      (q.perform? event).bind fun first =>
        (first.2.performAll? rest).map fun later => (first.1.toList ++ later.1, later.2)

/-- Only a key that is held is finished. -/
def Owned (q : WorkQueue κ) (event : QueueEvent κ) : Prop :=
  ∀ key, event = .finish key → q.processing.contains key = true

/-- The queues that can be come to.  With `careful`, whoever finishes a key holds it. -/
inductive Reached (careful : Bool) : WorkQueue κ → Prop where
  | empty : Reached careful .empty
  | step {q after : WorkQueue κ} {event : QueueEvent κ} {answer : Option (Taken κ)}
      (reached : Reached careful q) (owned : careful = true → q.Owned event)
      (performed : q.perform? event = some (answer, after)) : Reached careful after

/-- The events that can happen to a queue, with what follows. -/
inductive Performs (q : WorkQueue κ) : QueueEvent κ → Option (Taken κ) → WorkQueue κ → Prop where
  | added (key : κ) : Performs q (.add key) none (q.add key)
  | taken (caller : Nat) : Performs q (.take caller) (some (q.take caller).1) (q.take caller).2
  | retaken (caller : Nat) (woken : caller ∈ q.woken) :
      Performs q (.retake caller) (some (q.retake caller).1) (q.retake caller).2
  | finished (key : κ) : Performs q (.finish key) none (q.finish key)
  | delayed (key : κ) (delay now : Float) (serial : Nat) :
      Performs q (.addAfter key delay now serial) none (q.addAfter key delay now serial)
  | limited (policy : Backoff Float) (random : Float) (key : κ) (now : Float) (serial : Nat) :
      Performs q (.addRateLimited policy random key now serial) none
        (q.addRateLimited policy random key now serial).2
  | forgot (key : κ) : Performs q (.forget key) none (q.forget key)
  | fired (key : κ) (armed : q.isArmed key = true) : Performs q (.fire key) none (q.fire key)
  | closed : Performs q .shutdown none q.shutdown

theorem performs_of_perform? {q after : WorkQueue κ} {event : QueueEvent κ}
    {answer : Option (Taken κ)} (performed : q.perform? event = some (answer, after)) :
    Performs q event answer after := by
  cases event with
  | add key => cases performed; exact .added key
  | take caller => cases performed; exact .taken caller
  | retake caller =>
      simp only [perform?] at performed
      split at performed
      · next woken => cases performed; exact .retaken caller woken
      · cases performed
  | finish key => cases performed; exact .finished key
  | addAfter key delay now serial => cases performed; exact .delayed key delay now serial
  | addRateLimited policy random key now serial =>
      cases performed
      exact .limited policy random key now serial
  | forget key => cases performed; exact .forgot key
  | fire key =>
      simp only [perform?] at performed
      split at performed
      · next armed => cases performed; exact .fired key armed
      · cases performed
  | shutdown => cases performed; exact .closed

/-! ## Who is woken -/

/-- The callers who have not been answered. -/
def callers (q : WorkQueue κ) : List Nat :=
  q.blocked ++ q.woken

section Put

omit [BEq κ]

@[simp] theorem put_blocked (q : WorkQueue κ) (entry : Entry κ) :
    (q.put entry).blocked = q.blocked.tail := by
  unfold put
  split <;> simp_all

@[simp] theorem put_woken (q : WorkQueue κ) (entry : Entry κ) :
    (q.put entry).woken = q.woken ++ q.blocked.head?.toList := by
  unfold put
  split <;> simp_all

/-- An entry that joins the line moves a caller from the blocked ones to the woken ones. -/
theorem callers_put (q : WorkQueue κ) (entry : Entry κ) :
    (q.put entry).callers.Perm q.callers := by
  rw [callers, put_blocked, put_woken, callers]
  cases q.blocked with
  | nil => simp
  | cons caller rest =>
      have moved : (rest ++ (q.woken ++ [caller])).Perm ([caller] ++ (rest ++ q.woken)) := by
        rw [← List.append_assoc]
        exact List.perm_append_comm
      simpa using moved

theorem callers_erase {q : WorkQueue κ} {caller : Nat} (woken : caller ∈ q.woken) :
    q.callers.Perm
      (caller :: ({ q with woken := q.woken.erase caller } : WorkQueue κ).callers) :=
  ((List.perm_cons_erase woken).append_left q.blocked).trans List.perm_middle

end Put

/-- While anybody is blocked, as many callers are on their way as there are entries; the
marker ends the line of a closed queue, which has no timers. -/
structure Lively (q : WorkQueue κ) : Prop where
  line : q.inner = q.waiting.map .key ++ (if q.shuttingDown then [.marker] else [])
  waking : q.blocked ≠ [] → q.inner.length ≤ q.woken.length
  timers : q.shuttingDown = true → q.timers = []

namespace Lively

variable {q r : WorkQueue κ}

omit [BEq κ] in
theorem congr (lively : q.Lively) (inner : r.inner = q.inner)
    (closed : r.shuttingDown = q.shuttingDown) (blocked : r.blocked = q.blocked)
    (woken : r.woken = q.woken) (timers : r.shuttingDown = true → r.timers = q.timers) :
    r.Lively := by
  have waiting : r.waiting = q.waiting := by rw [WorkQueue.waiting, inner, WorkQueue.waiting]
  refine ⟨?_, ?_, ?_⟩
  · rw [inner, waiting, closed]
    exact lively.line
  · rw [blocked, inner, woken]
    exact lively.waking
  · intro shut
    rw [timers shut]
    apply lively.timers
    rw [← closed, shut]

omit [BEq κ] in
theorem waking_put (lively : q.Lively) (entry : Entry κ) :
    (q.put entry).blocked ≠ [] → (q.put entry).inner.length ≤ (q.put entry).woken.length := by
  intro somebody
  rw [put_blocked] at somebody
  rw [put_inner, put_woken]
  cases blocked : q.blocked with
  | nil => simp [blocked] at somebody
  | cons caller rest =>
      have enough := lively.waking (by simp [blocked])
      simpa using enough

omit [BEq κ] in
theorem put_key (lively : q.Lively) (opened : q.shuttingDown = false) (key : κ) :
    (q.put (.key key)).Lively := by
  refine ⟨?_, lively.waking_put _, ?_⟩
  · have line := lively.line
    rw [opened] at line
    rw [put_inner, waiting_put_key, put_shuttingDown, opened, line]
    simp
  · intro shut
    rw [put_shuttingDown, opened] at shut
    cases shut

theorem add (lively : q.Lively) (key : κ) : (q.add key).Lively := by
  obtain ⟨-, same⟩ | ⟨opened, -, -, same⟩ | ⟨opened, -, -, same⟩ := add_cases q key
  · rw [same]
    exact lively
  · rw [same]
    exact lively.congr rfl rfl rfl rfl fun _ => rfl
  · rw [same]
    have asked : ({ q with dirty := q.dirty ++ [key] } : WorkQueue κ).Lively :=
      lively.congr rfl rfl rfl rfl fun _ => rfl
    exact asked.put_key opened key

theorem finish (lively : q.Lively) (key : κ) : (q.finish key).Lively := by
  have released :
      ({ q with processing := q.processing.filter (· != key) } : WorkQueue κ).Lively :=
    lively.congr rfl rfl rfl rfl fun _ => rfl
  simp only [WorkQueue.finish]
  split
  · next again =>
      rw [Bool.and_eq_true, Bool.not_eq_true'] at again
      exact released.put_key again.2 key
  · exact released

theorem addAfter (lively : q.Lively) (key : κ) (delay now : Float) (serial : Nat) :
    (q.addAfter key delay now serial).Lively := by
  obtain ⟨-, same⟩ | ⟨-, same⟩ | ⟨opened, same⟩ := addAfter_cases q key delay now serial
  · rw [same]
    exact lively
  · rw [same]
    exact lively.add key
  · rw [same]
    refine lively.congr rfl rfl rfl rfl ?_
    intro shut
    rw [show q.shuttingDown = true from shut] at opened
    cases opened

theorem fire (lively : q.Lively) (key : κ) : (q.fire key).Lively := by
  have disarmed :
      ({ q with timers := q.timers.filter fun timer => timer.key != key } : WorkQueue κ).Lively := by
    refine lively.congr rfl rfl rfl rfl ?_
    intro shut
    have none : q.timers = [] := lively.timers shut
    rw [show q.timers = [] from none]
    rfl
  exact disarmed.add key

omit [BEq κ] in
theorem shutdown (lively : q.Lively) : q.shutdown.Lively := by
  unfold WorkQueue.shutdown
  split
  · exact lively
  · next opened =>
      refine ⟨?_, ?_, fun _ => by rw [put_timers]⟩
      · have line := lively.line
        rw [if_neg opened, List.append_nil] at line
        have waiting : ({ q with shuttingDown := true, timers := [] }.put .marker).waiting =
            q.waiting := waiting_put_marker _
        rw [waiting, put_inner, put_shuttingDown, if_pos rfl, ← line]
      · intro somebody
        rw [put_blocked] at somebody
        have apart : ({ q with shuttingDown := true, timers := [] }.put .marker).inner =
            (q.put .marker).inner := by rw [put_inner, put_inner]
        have woken : ({ q with shuttingDown := true, timers := [] }.put .marker).woken =
            (q.put .marker).woken := by rw [put_woken, put_woken]
        rw [apart, woken]
        apply lively.waking_put
        rw [put_blocked]
        exact somebody

omit [BEq κ] in
/-- A marker at the head of the line is all that is left of it, and the queue is closed. -/
theorem of_marker {rest : List (Entry κ)}
    (line : q.inner = q.waiting.map .key ++ (if q.shuttingDown then [.marker] else []))
    (head : q.inner = .marker :: rest) : rest = [] ∧ q.waiting = [] ∧ q.shuttingDown = true := by
  have none : q.waiting = [] := by
    cases keys : q.waiting with
    | nil => rfl
    | cons key others =>
        rw [head, keys, List.map_cons, List.cons_append] at line
        cases line
  rw [head, none, List.map_nil, List.nil_append] at line
  split at line
  · next closed =>
      cases line
      exact ⟨rfl, none, closed⟩
  · cases line

/-- A caller who is or was on the way tries: at most one fewer is on the way afterwards, and
one entry has gone, or the marker has woken the next one. -/
theorem take_of_almost {caller : Nat}
    (line : q.inner = q.waiting.map .key ++ (if q.shuttingDown then [.marker] else []))
    (almost : q.blocked ≠ [] → q.inner.length ≤ q.woken.length + 1)
    (timers : q.shuttingDown = true → q.timers = []) : (q.take caller).2.Lively := by
  obtain ⟨empty, same⟩ | ⟨key, rest, head, same⟩ | ⟨rest, head, same⟩ := take_cases q caller
  · rw [same]
    refine ⟨line, ?_, timers⟩
    intro _
    rw [empty]
    exact Nat.zero_le _
  · rw [same]
    refine ⟨?_, ?_, timers⟩
    · have whole := line
      have first : q.waiting = key :: rest.filterMap Entry.key? := by
        simp [waiting, head, Entry.key?]
      rw [head, first, List.map_cons, List.cons_append, List.cons.injEq] at whole
      exact whole.2
    · intro somebody
      have enough := almost somebody
      rw [head, List.length_cons] at enough
      exact Nat.le_of_succ_le_succ enough
  · obtain ⟨rfl, none, closed⟩ := of_marker line head
    rw [same]
    refine ⟨?_, ?_, fun _ => by rw [put_timers]; exact timers closed⟩
    · have waiting : ({ q with inner := [] }.put .marker).waiting = [] := waiting_put_marker _
      rw [waiting, put_inner, put_shuttingDown, if_pos closed]
      rfl
    · intro somebody
      rw [put_blocked] at somebody
      rw [put_inner, put_woken]
      cases blocked : q.blocked with
      | nil => simp [blocked] at somebody
      | cons first others => simp

theorem take (lively : q.Lively) (caller : Nat) : (q.take caller).2.Lively :=
  take_of_almost lively.line
    (fun somebody => Nat.le_succ_of_le (lively.waking somebody)) lively.timers

theorem retake (lively : q.Lively) {caller : Nat} (woken : caller ∈ q.woken) :
    (q.retake caller).2.Lively := by
  have again : ∀ somebody : q.blocked ≠ [],
      q.inner.length ≤ (q.woken.erase caller).length + 1 := by
    intro somebody
    have enough := lively.waking somebody
    have positive := List.length_pos_of_mem woken
    rw [List.length_erase_of_mem woken]
    omega
  exact take_of_almost (q := { q with woken := q.woken.erase caller }) lively.line again
    lively.timers

theorem performs (lively : q.Lively) {event : QueueEvent κ} {answer : Option (Taken κ)}
    (performed : Performs q event answer r) : r.Lively := by
  cases performed with
  | added key => exact lively.add key
  | taken caller => exact lively.take caller
  | retaken caller woken => exact lively.retake woken
  | finished key => exact lively.finish key
  | delayed key delay now serial => exact lively.addAfter key delay now serial
  | limited policy random key now serial =>
      have counted : (q.setFailures key (q.failureCount key + 1)).Lively :=
        lively.congr rfl rfl rfl rfl fun _ => rfl
      exact counted.addAfter key _ now serial
  | forgot key => exact lively.congr rfl rfl rfl rfl fun _ => rfl
  | fired key armed => exact lively.fire key
  | closed => exact lively.shutdown

end Lively

theorem Reached.lively {careful : Bool} {q : WorkQueue κ} (reached : q.Reached careful) :
    q.Lively := by
  induction reached with
  | empty => exact ⟨rfl, fun somebody => absurd rfl somebody, fun _ => rfl⟩
  | step reached owned performed lively => exact lively.performs (performs_of_perform? performed)

theorem Reached.consistent [EquivBEq κ] {q : WorkQueue κ} (reached : q.Reached true) :
    q.Consistent := by
  induction reached with
  | empty => exact consistent_empty
  | step reached owned performed consistent =>
      cases performs_of_perform? performed with
      | added key => exact consistent.add key
      | taken caller => exact consistent.take caller
      | retaken caller woken => exact consistent.retake caller
      | finished key => exact consistent.finish (owned rfl key rfl)
      | delayed key delay now serial => exact consistent.addAfter key delay now serial
      | limited policy random key now serial =>
          exact consistent.addRateLimited policy random key now serial
      | forgot key => exact consistent.forget key
      | fired key armed => exact consistent.fire key
      | closed => exact consistent.shutdown

/-! ## A closed queue -/

def nextAnswer : List κ → Taken κ
  | [] => .shutDown
  | key :: _ => .key key

/-- What the next callers of a closed queue are answered: the keys in line, one after the
other, and then that the queue is shut down. -/
def answersFor (keys : List κ) (count : Nat) : List (Taken κ) :=
  (keys.take count).map .key ++ List.replicate (count - keys.length) .shutDown

omit [BEq κ] in
theorem answersFor_succ (keys : List κ) (count : Nat) :
    answersFor keys (count + 1) = nextAnswer keys :: answersFor keys.tail count := by
  cases keys with
  | nil => simp [answersFor, nextAnswer, List.replicate_succ]
  | cons key rest => simp [answersFor, nextAnswer]

/-- What a queue that has been shut down makes of an event. -/
structure ClosedStep (q : WorkQueue κ) (event : QueueEvent κ) (answer : Option (Taken κ))
    (after : WorkQueue κ) : Prop where
  closed : after.shuttingDown = true
  answer : answer = if event.isGet then some (nextAnswer q.waiting) else none
  waiting : after.waiting = if event.isGet then q.waiting.tail else q.waiting
  callers : q.callers.Perm (QueueEvent.retakers [event] ++ after.callers)
  unfired : ∀ key, event ≠ .fire key

section Closed

variable {q after : WorkQueue κ} {event : QueueEvent κ} {answer : Option (Taken κ)}

omit [BEq κ] in
theorem ClosedStep.of_rest (closed : q.shuttingDown = true) (noGet : event.isGet = false)
    (noRetake : QueueEvent.retakers [event] = []) (unfired : ∀ key, event ≠ .fire key)
    (inner : after.inner = q.inner) (stillClosed : after.shuttingDown = q.shuttingDown)
    (blocked : after.blocked = q.blocked) (woken : after.woken = q.woken) :
    ClosedStep q event none after where
  closed := stillClosed.trans closed
  answer := by simp [noGet]
  waiting := by simp [noGet, WorkQueue.waiting, inner]
  callers := by
    rw [noRetake, WorkQueue.callers, WorkQueue.callers, blocked, woken]
    exact List.Perm.refl _
  unfired := unfired

theorem add_of_closed (closed : q.shuttingDown = true) (key : κ) : q.add key = q := by
  simp [WorkQueue.add, closed]

theorem finish_of_closed (closed : q.shuttingDown = true) (key : κ) :
    q.finish key = { q with processing := q.processing.filter (· != key) } := by
  simp [WorkQueue.finish, closed]

theorem addAfter_of_closed (closed : q.shuttingDown = true) (key : κ) (delay now : Float)
    (serial : Nat) : q.addAfter key delay now serial = q := by
  simp [WorkQueue.addAfter, closed]

omit [BEq κ] in
theorem shutdown_of_closed (closed : q.shuttingDown = true) : q.shutdown = q := by
  simp [WorkQueue.shutdown, closed]

/-- A caller of a closed queue is never blocked: the line holds the marker at least. -/
theorem take_of_closed (caller : Nat)
    (line : q.inner = q.waiting.map .key ++ (if q.shuttingDown then [.marker] else []))
    (closed : q.shuttingDown = true) : (q.take caller).1 = nextAnswer q.waiting ∧
      (q.take caller).2.waiting = q.waiting.tail ∧ (q.take caller).2.shuttingDown = true ∧
      (q.take caller).2.callers.Perm q.callers := by
  obtain ⟨empty, -⟩ | ⟨key, rest, head, same⟩ | ⟨rest, head, same⟩ := take_cases q caller
  · rw [empty, if_pos closed] at line
    simp at line
  · have first : q.waiting = key :: rest.filterMap Entry.key? := by
      simp [waiting, head, Entry.key?]
    rw [same, first]
    exact ⟨rfl, rfl, closed, List.Perm.refl _⟩
  · obtain ⟨rfl, none, -⟩ := Lively.of_marker line head
    rw [same, none]
    refine ⟨rfl, ?_, ?_, callers_put { q with inner := [] } .marker⟩
    · exact waiting_put_marker { q with inner := [] }
    · rw [put_shuttingDown]
      exact closed

theorem closedStep_of_performs (lively : q.Lively) (closed : q.shuttingDown = true)
    (performed : Performs q event answer after) : ClosedStep q event answer after := by
  cases performed with
  | added key =>
      have same := add_of_closed closed key
      exact .of_rest closed rfl rfl (by simp) (by rw [same]) (by rw [same]) (by rw [same])
        (by rw [same])
  | taken caller =>
      obtain ⟨answered, rest, stillClosed, callers⟩ := take_of_closed caller lively.line closed
      exact {
        closed := stillClosed
        answer := by simp [QueueEvent.isGet, answered]
        waiting := by simp [QueueEvent.isGet, rest]
        callers := callers.symm
        unfired := by simp }
  | retaken caller woken =>
      -- the caller leaves the woken ones before trying
      obtain ⟨answered, rest, stillClosed, callers⟩ :=
        take_of_closed (q := { q with woken := q.woken.erase caller }) caller lively.line closed
      have left := callers_erase woken
      exact {
        closed := stillClosed
        answer := congrArg some answered
        waiting := rest
        callers := left.trans (callers.symm.append_left [caller])
        unfired := by simp }
  | finished key =>
      have same := finish_of_closed closed key
      exact .of_rest closed rfl rfl (by simp) (by rw [same]) (by rw [same]) (by rw [same])
        (by rw [same])
  | delayed key delay now serial =>
      have same := addAfter_of_closed closed key delay now serial
      exact .of_rest closed rfl rfl (by simp) (by rw [same]) (by rw [same]) (by rw [same])
        (by rw [same])
  | limited policy random key now serial =>
      have counted : (q.setFailures key (q.failureCount key + 1)).shuttingDown = true := closed
      have same : (q.addRateLimited policy random key now serial).2 =
          q.setFailures key (q.failureCount key + 1) := addAfter_of_closed counted key _ now serial
      exact .of_rest closed rfl rfl (by simp) (by rw [same]; rfl) (by rw [same]; rfl)
        (by rw [same]; rfl) (by rw [same]; rfl)
  | forgot key => exact .of_rest closed rfl rfl (by simp) rfl rfl rfl rfl
  | fired key armed =>
      rw [isArmed, lively.timers closed] at armed
      cases armed
  | closed =>
      have same := shutdown_of_closed closed
      exact .of_rest closed rfl rfl (by simp) (by rw [same]) (by rw [same]) (by rw [same])
        (by rw [same])

end Closed

/-- What a queue that was shut down with these keys in line and these callers waiting has
made of later events: the keys were handed out in order, everybody else was sent away, and
whoever is blocked still has somebody before them who is on the way. -/
structure Released (keys : List κ) (callers : List Nat) (later : List (QueueEvent κ))
    (answers : List (Taken κ)) (last : WorkQueue κ) : Prop where
  answers : answers = answersFor keys (later.countP QueueEvent.isGet)
  line : last.inner = (keys.drop (later.countP QueueEvent.isGet)).map .key ++ [.marker]
  timers : last.timers = []
  unfired : ∀ key, .fire key ∉ later
  callers : callers.Perm (QueueEvent.retakers later ++ last.callers)
  waking : last.blocked ≠ [] → last.woken ≠ []

/-- A closed queue releases whoever comes, as often as anybody comes. -/
theorem released_of_closed {q last : WorkQueue κ} {later : List (QueueEvent κ)}
    {answers : List (Taken κ)} (lively : q.Lively) (closed : q.shuttingDown = true)
    (performed : q.performAll? later = some (answers, last)) :
    Released q.waiting q.callers later answers last ∧
      last.Lively ∧ last.shuttingDown = true := by
  induction later generalizing q answers with
  | nil =>
      cases performed
      have line := lively.line
      rw [if_pos closed] at line
      refine ⟨⟨by simp [answersFor], line, lively.timers closed, by simp, List.Perm.refl _, ?_⟩,
        lively, closed⟩
      intro somebody
      have enough := lively.waking somebody
      rw [line, List.length_append, List.length_singleton] at enough
      apply List.ne_nil_of_length_pos
      omega
  | cons event rest ih =>
      obtain ⟨⟨answer, middle⟩, first, performed⟩ := Option.bind_eq_some_iff.mp performed
      obtain ⟨⟨answers', last'⟩, later, same⟩ := Option.map_eq_some_iff.mp performed
      cases same
      have happened := performs_of_perform? first
      have step := closedStep_of_performs lively closed happened
      obtain ⟨released, stillLively, stillClosed⟩ :=
        ih (lively.performs happened) step.closed later
      have retakers : QueueEvent.retakers (event :: rest) =
          QueueEvent.retakers [event] ++ QueueEvent.retakers rest := by
        rw [QueueEvent.retakers, QueueEvent.retakers, QueueEvent.retakers, ← List.filterMap_append,
          List.singleton_append]
      refine ⟨⟨?_, ?_, released.timers, ?_, ?_, released.waking⟩, stillLively, stillClosed⟩
      · rw [step.answer, released.answers, step.waiting, List.countP_cons]
        cases event.isGet with
        | true => simp [answersFor_succ]
        | false => simp
      · rw [released.line, step.waiting, List.countP_cons]
        cases event.isGet with
        | true => simp
        | false => simp
      · intro key member
        rcases List.mem_cons.mp member with same | member
        · exact step.unfired key same.symm
        · exact released.unfired key member
      · rw [retakers, List.append_assoc]
        exact step.callers.trans (released.callers.append_left _)

/-- The callers of a closed queue who wait can all be woken in turn, and then nobody waits. -/
theorem exists_wakes {q : WorkQueue κ} (lively : q.Lively) (closed : q.shuttingDown = true) :
    ∃ (wakes : List Nat) (answers : List (Taken κ)) (last : WorkQueue κ),
      q.performAll? (wakes.map .retake) = some (answers, last) ∧
      last.callers = [] := by
  generalize size : q.callers.length = count
  induction count generalizing q with
  | zero =>
      exact ⟨[], [], q, rfl, List.length_eq_zero_iff.mp size⟩
  | succ count ih =>
      have somebody : q.woken ≠ [] := by
        intro none
        have waiting : q.blocked ≠ [] := by
          intro nobody
          simp [callers, none, nobody] at size
        have enough := lively.waking waiting
        rw [lively.line, if_pos closed, none] at enough
        simp at enough
      obtain ⟨caller, others, woken⟩ := List.exists_cons_of_ne_nil somebody
      have member : caller ∈ q.woken := by simp [woken]
      have performed : q.perform? (.retake caller) =
          some (some (q.retake caller).1, (q.retake caller).2) := by
        simp only [perform?, if_pos member]
      have happened := performs_of_perform? performed
      have step := closedStep_of_performs lively closed happened
      have fewer : (q.retake caller).2.callers.length = count := by
        have lengths := step.callers.length_eq
        rw [size, List.length_append] at lengths
        have one : (QueueEvent.retakers [QueueEvent.retake (κ := κ) caller]).length = 1 := rfl
        rw [one] at lengths
        omega
      obtain ⟨wakes, answers, last, later, nobody⟩ :=
        ih (lively.performs happened) step.closed fewer
      refine ⟨caller :: wakes, (q.retake caller).1 :: answers, last, ?_, nobody⟩
      simp only [List.map_cons, performAll?, performed, Option.bind_some, later, Option.map_some,
        Option.toList_some, List.singleton_append]

omit [BEq κ] in
theorem callers_shutdown (q : WorkQueue κ) :
    q.shutdown.callers.Perm q.callers := by
  unfold WorkQueue.shutdown
  split
  · exact List.Perm.refl _
  · exact callers_put { q with shuttingDown := true, timers := [] } .marker

omit [BEq κ] in
theorem waiting_shutdown (q : WorkQueue κ) : q.shutdown.waiting = q.waiting := by
  unfold WorkQueue.shutdown
  split
  · rfl
  · exact waiting_put_marker _

/-- Whatever happens after a queue has been shut down, everybody is released. -/
theorem Lively.released {q last : WorkQueue κ} {later : List (QueueEvent κ)}
    {answers : List (Taken κ)} (lively : q.Lively)
    (performed : q.shutdown.performAll? later = some (answers, last)) :
    Released q.waiting q.callers later answers last ∧
      last.Lively ∧ last.shuttingDown = true := by
  obtain ⟨released, rest⟩ :=
    released_of_closed lively.shutdown (shutdown_shuttingDown q) performed
  rw [waiting_shutdown] at released
  exact ⟨{ released with callers := (callers_shutdown q).symm.trans released.callers }, rest⟩

end WorkQueue

end AppOperator
