import AppOperator.Queue

/-!
# Consistency of the work queue

Line, dirty keys and held keys of a queue stay in step: a key that waits in line
is dirty and not held, and no key waits or is held twice.  While the queue is
open, a dirty key that nobody holds waits in line; the marker stands at the end
of the line once the queue has been shut down, and never before.  Every
operation keeps this, where `finish` may only be called for a key that is held.

Keys are compared by the equality of their type, which need not be identity.
-/

set_option autoImplicit false

namespace AppOperator

def Entry.key? {κ : Type} : Entry κ → Option κ
  | .key held => some held
  | .marker => none

/-! ## Lists of keys -/

section Keys

variable {κ : Type} [BEq κ] [EquivBEq κ]

/-- No two of the keys agree. -/
def Distinct (keys : List κ) : Prop :=
  keys.Pairwise fun a b => (a == b) = false

omit [EquivBEq κ] in
theorem distinct_nil : Distinct ([] : List κ) :=
  List.Pairwise.nil

theorem distinct_concat (keys : List κ) (key : κ) :
    Distinct (keys ++ [key]) ↔ Distinct keys ∧ keys.contains key = false := by
  have apart : keys.contains key = false ↔ ∀ other ∈ keys, (other == key) = false := by
    simp only [Bool.eq_false_iff, ne_eq, List.contains_iff_exists_mem_beq, not_exists, not_and,
      BEq.comm (a := key)]
  rw [apart]
  simp [Distinct, List.pairwise_append]

omit [EquivBEq κ] in
theorem Distinct.filter {keys : List κ} (distinct : Distinct keys) (keep : κ → Bool) :
    Distinct (keys.filter keep) :=
  List.Pairwise.filter keep distinct

theorem Distinct.perm {keys others : List κ} (distinct : Distinct keys)
    (perm : keys.Perm others) : Distinct others :=
  (perm.pairwise_iff fun apart => by rw [BEq.comm]; exact apart).mp distinct

theorem contains_filter_ne (keys : List κ) (key other : κ) :
    (keys.filter (· != key)).contains other = (keys.contains other && other != key) := by
  induction keys with
  | nil => rfl
  | cons head rest ih =>
      by_cases same : (head == key) = true
      · have skipped : (other == head && other != key) = false := by
          cases agrees : other == head with
          | false => rfl
          | true => simp [bne, BEq.trans agrees same]
        rw [List.filter_cons_of_neg (by simp [bne, same]), ih, List.contains_cons,
          Bool.and_or_distrib_right, skipped, Bool.false_or]
      · have kept : (other == head && other != key) = (other == head) := by
          cases agrees : other == head with
          | false => rfl
          | true =>
              have apart : (other == key) = false := by
                rw [BEq.congr_left agrees]
                exact Bool.eq_false_iff.mpr same
              simp [bne, apart]
        rw [List.filter_cons_of_pos (by simp [bne, same]), List.contains_cons, ih,
          List.contains_cons, Bool.and_or_distrib_right, kept]

theorem contains_filter_ne_self (keys : List κ) (key : κ) :
    (keys.filter (· != key)).contains key = false := by
  rw [contains_filter_ne]
  simp [bne]

/-- Nothing is taken away from keys that all differ from the one taken away. -/
theorem filter_ne_of_not_contains {keys : List κ} {key : κ} (absent : keys.contains key = false) :
    keys.filter (· != key) = keys := by
  apply List.filter_eq_self.mpr
  intro other member
  have apart : (other == key) = false := by
    apply Bool.eq_false_iff.mpr
    intro agrees
    have present := List.contains_iff_exists_mem_beq.mpr ⟨other, member, BEq.symm agrees⟩
    rw [absent] at present
    cases present
  simp [bne, apart]

end Keys

namespace WorkQueue

variable {κ : Type}

/-- The keys in line, the first one first. -/
def waiting (q : WorkQueue κ) : List κ :=
  q.inner.filterMap Entry.key?

section Put

variable (q : WorkQueue κ) (entry : Entry κ)

@[simp] theorem put_inner : (q.put entry).inner = q.inner ++ [entry] := by
  unfold put
  split <;> rfl

@[simp] theorem put_dirty : (q.put entry).dirty = q.dirty := by
  unfold put
  split <;> rfl

@[simp] theorem put_processing : (q.put entry).processing = q.processing := by
  unfold put
  split <;> rfl

@[simp] theorem put_timers : (q.put entry).timers = q.timers := by
  unfold put
  split <;> rfl

@[simp] theorem put_shuttingDown : (q.put entry).shuttingDown = q.shuttingDown := by
  unfold put
  split <;> rfl

end Put

theorem waiting_put_key (q : WorkQueue κ) (key : κ) :
    (q.put (.key key)).waiting = q.waiting ++ [key] := by
  simp [waiting, Entry.key?]

theorem waiting_put_marker (q : WorkQueue κ) : (q.put .marker).waiting = q.waiting := by
  simp [waiting, Entry.key?]

variable [BEq κ]

/-- No key is on its way twice: what waits is dirty and not held, nothing waits or is
held twice, and the marker ends the line of a queue that has been shut down. -/
structure Exclusive (q : WorkQueue κ) : Prop where
  line : q.inner = q.waiting.map .key ++ (if q.shuttingDown then [.marker] else [])
  waitingDistinct : Distinct q.waiting
  processingDistinct : Distinct q.processing
  dirty_of_waiting : ∀ key, q.waiting.contains key = true → q.dirty.contains key = true
  free_of_waiting : ∀ key, q.waiting.contains key = true → q.processing.contains key = false

/-- What holds of a queue after any operations, as long as only holders finish:
besides, a dirty key of an open queue waits in line unless it is held. -/
structure Consistent (q : WorkQueue κ) : Prop extends q.Exclusive where
  waiting_of_dirty : q.shuttingDown = false → ∀ key, q.dirty.contains key = true →
    q.processing.contains key = false → q.waiting.contains key = true

theorem consistent_empty : (empty : WorkQueue κ).Consistent where
  line := rfl
  waitingDistinct := distinct_nil
  processingDistinct := distinct_nil
  dirty_of_waiting := by simp [waiting, empty]
  free_of_waiting := by simp [waiting, empty]
  waiting_of_dirty := by simp [empty]

/-! ## Asking for a key -/

section Add

variable (q : WorkQueue κ) (key : κ)

/-- The three things that can come of asking for a key. -/
theorem add_cases :
    ((q.shuttingDown = true ∨ q.dirty.contains key = true) ∧ q.add key = q) ∨
    (q.shuttingDown = false ∧ q.dirty.contains key = false ∧ q.processing.contains key = true ∧
      q.add key = { q with dirty := q.dirty ++ [key] }) ∨
    (q.shuttingDown = false ∧ q.dirty.contains key = false ∧ q.processing.contains key = false ∧
      q.add key = { q with dirty := q.dirty ++ [key] }.put (.key key)) := by
  cases closed : q.shuttingDown <;> cases asked : q.dirty.contains key <;>
    cases held : q.processing.contains key <;> simp_all [add]

@[simp] theorem add_processing : (q.add key).processing = q.processing := by
  obtain ⟨-, same⟩ | ⟨-, -, -, same⟩ | ⟨-, -, -, same⟩ := add_cases q key <;> simp [same]

@[simp] theorem add_timers : (q.add key).timers = q.timers := by
  obtain ⟨-, same⟩ | ⟨-, -, -, same⟩ | ⟨-, -, -, same⟩ := add_cases q key <;> simp [same]

@[simp] theorem add_shuttingDown : (q.add key).shuttingDown = q.shuttingDown := by
  obtain ⟨-, same⟩ | ⟨-, -, -, same⟩ | ⟨-, -, -, same⟩ := add_cases q key <;> simp [same]

variable [EquivBEq κ]

theorem dirty_add_self (opened : q.shuttingDown = false) :
    (q.add key).dirty.contains key = true := by
  obtain ⟨closed | asked, same⟩ | ⟨-, -, -, same⟩ | ⟨-, -, -, same⟩ := add_cases q key
  · rw [opened] at closed
    cases closed
  · rw [same]
    exact asked
  · simp [same]
  · simp [same]

omit [EquivBEq κ] in
theorem dirty_add {other : κ} (asked : q.dirty.contains other = true) :
    (q.add key).dirty.contains other = true := by
  obtain ⟨-, same⟩ | ⟨-, -, -, same⟩ | ⟨-, -, -, same⟩ := add_cases q key
  · rw [same]
    exact asked
  · rw [same, List.contains_append, asked, Bool.true_or]
  · rw [same, put_dirty, List.contains_append, asked, Bool.true_or]

end Add

/-- Nothing but line, dirty keys, held keys and the mark of a shutdown matters. -/
theorem Consistent.congr {q r : WorkQueue κ} (consistent : q.Consistent)
    (inner : r.inner = q.inner) (dirty : r.dirty = q.dirty)
    (processing : r.processing = q.processing) (closed : r.shuttingDown = q.shuttingDown) :
    r.Consistent := by
  have waiting : r.waiting = q.waiting := by rw [WorkQueue.waiting, inner, WorkQueue.waiting]
  refine ⟨⟨?_, ?_, ?_, ?_, ?_⟩, ?_⟩
  · rw [inner, waiting, closed]
    exact consistent.line
  · rw [waiting]
    exact consistent.waitingDistinct
  · rw [processing]
    exact consistent.processingDistinct
  · rw [waiting, dirty]
    exact consistent.dirty_of_waiting
  · rw [waiting, processing]
    exact consistent.free_of_waiting
  · rw [closed, dirty, processing, waiting]
    exact consistent.waiting_of_dirty

variable [EquivBEq κ]

/-- The one dirty key of an open queue that is neither held nor in line joins the line. -/
theorem Exclusive.put_key {q : WorkQueue κ} {key : κ} (exclusive : q.Exclusive)
    (opened : q.shuttingDown = false) (asked : q.dirty.contains key = true)
    (free : q.processing.contains key = false) (absent : q.waiting.contains key = false)
    (others : ∀ other, q.dirty.contains other = true → q.processing.contains other = false →
      q.waiting.contains other = true ∨ (other == key) = true) :
    (q.put (.key key)).Consistent := by
  have inLine : ∀ other, (q.put (.key key)).waiting.contains other = true ↔
      q.waiting.contains other = true ∨ (other == key) = true := by
    intro other
    simp [waiting_put_key]
  refine ⟨⟨?_, ?_, ?_, ?_, ?_⟩, ?_⟩
  · have line := exclusive.line
    rw [opened] at line
    rw [put_inner, waiting_put_key, put_shuttingDown, opened, line]
    simp
  · rw [waiting_put_key]
    exact (distinct_concat _ _).mpr ⟨exclusive.waitingDistinct, absent⟩
  · rw [put_processing]
    exact exclusive.processingDistinct
  · intro other member
    rw [put_dirty]
    rcases (inLine other).mp member with member | same
    · exact exclusive.dirty_of_waiting other member
    · rw [List.contains_congr same]
      exact asked
  · intro other member
    rw [put_processing]
    rcases (inLine other).mp member with member | same
    · exact exclusive.free_of_waiting other member
    · rw [List.contains_congr same]
      exact free
  · intro _ other dirty unheld
    rw [put_dirty] at dirty
    rw [put_processing] at unheld
    exact (inLine other).mpr (others other dirty unheld)

theorem Consistent.add {q : WorkQueue κ} (consistent : q.Consistent) (key : κ) :
    (q.add key).Consistent := by
  have grown : ({ q with dirty := q.dirty ++ [key] } : WorkQueue κ).Exclusive :=
    { line := consistent.line
      waitingDistinct := consistent.waitingDistinct
      processingDistinct := consistent.processingDistinct
      dirty_of_waiting := fun other member => by
        have dirty := consistent.dirty_of_waiting other member
        simp [dirty]
      free_of_waiting := consistent.free_of_waiting }
  have others : ∀ other, (q.dirty ++ [key]).contains other = true →
      q.processing.contains other = false → q.shuttingDown = false →
      q.waiting.contains other = true ∨ (other == key) = true := by
    intro other dirty unheld opened
    rw [List.contains_append, Bool.or_eq_true] at dirty
    rcases dirty with dirty | same
    · exact Or.inl (consistent.waiting_of_dirty opened other dirty unheld)
    · exact Or.inr (by simpa using same)
  obtain ⟨-, same⟩ | ⟨opened, fresh, held, same⟩ | ⟨opened, fresh, free, same⟩ := add_cases q key
  · rw [same]
    exact consistent
  · rw [same]
    refine ⟨grown, ?_⟩
    intro _ other dirty unheld
    rcases others other dirty unheld opened with member | agrees
    · exact member
    · have taken : q.processing.contains other = true := by
        rw [List.contains_congr agrees]
        exact held
      rw [unheld] at taken
      cases taken
  · rw [same]
    have absent : q.waiting.contains key = false := by
      apply Bool.eq_false_iff.mpr
      intro member
      rw [consistent.dirty_of_waiting key member] at fresh
      cases fresh
    exact grown.put_key opened (by simp) free absent
      (fun other dirty unheld => others other dirty unheld opened)

/-! ## Handing out and finishing -/

section Take

variable (q : WorkQueue κ) (caller : Nat)

omit [EquivBEq κ] in
/-- What a caller gets is decided by the head of the line. -/
theorem take_cases :
    (q.inner = [] ∧ q.take caller = (.blocked, { q with blocked := q.blocked ++ [caller] })) ∨
    (∃ key rest, q.inner = .key key :: rest ∧ q.take caller = (.key key, { q with
      inner := rest
      dirty := q.dirty.filter (· != key)
      processing := q.processing.filter (· != key) ++ [key] })) ∨
    (∃ rest, q.inner = .marker :: rest ∧
      q.take caller = (.shutDown, { q with inner := rest }.put .marker)) := by
  rcases line : q.inner with _ | ⟨_ | _, rest⟩
  · exact Or.inl ⟨rfl, by simp [take, line]⟩
  · exact Or.inr (Or.inl ⟨_, rest, rfl, by simp [take, line]⟩)
  · exact Or.inr (Or.inr ⟨rest, rfl, by simp [take, line]⟩)

end Take

omit [EquivBEq κ] in
/-- A marker at the head of the line is all that is left of it. -/
theorem Exclusive.inner_of_marker {q : WorkQueue κ} (exclusive : q.Exclusive)
    {rest : List (Entry κ)} (head : q.inner = .marker :: rest) : rest = [] := by
  have line := exclusive.line
  rw [head] at line
  cases keys : q.waiting with
  | nil =>
      rw [keys] at line
      cases closed : q.shuttingDown <;> simp_all
  | cons key others =>
      rw [keys] at line
      simp at line

theorem Exclusive.not_held_of_head {q : WorkQueue κ} (exclusive : q.Exclusive) {key : κ}
    {rest : List (Entry κ)} (head : q.inner = .key key :: rest) :
    q.processing.contains key = false :=
  exclusive.free_of_waiting key (by simp [waiting, head, Entry.key?])

/-- The key at the head of the line is handed out and held from then on. -/
theorem Consistent.hand_out {q : WorkQueue κ} (consistent : q.Consistent) {key : κ}
    {rest : List (Entry κ)} (head : q.inner = .key key :: rest) :
    ({ q with
      inner := rest
      dirty := q.dirty.filter (· != key)
      processing := q.processing.filter (· != key) ++ [key] } : WorkQueue κ).Consistent := by
  let behind : List κ := rest.filterMap Entry.key?
  have line : q.waiting = key :: behind := by simp [waiting, head, Entry.key?, behind]
  have apart : ∀ other, behind.contains other = true → (other == key) = false := by
    intro other member
    obtain ⟨later, position, agrees⟩ := List.contains_iff_exists_mem_beq.mp member
    have distinct := consistent.waitingDistinct
    rw [line] at distinct
    rw [BEq.congr_left agrees, BEq.comm]
    exact (List.pairwise_cons.mp distinct).1 later position
  have inLine : ∀ other, behind.contains other = true → q.waiting.contains other = true := by
    intro other member
    rw [line, List.contains_cons, member, Bool.or_true]
  have free := consistent.not_held_of_head head
  refine ⟨⟨?_, ?_, ?_, ?_, ?_⟩, ?_⟩
  · have whole := consistent.line
    rw [head, line, List.map_cons, List.cons_append, List.cons.injEq] at whole
    exact whole.2
  · have distinct := consistent.waitingDistinct
    rw [line] at distinct
    exact (List.pairwise_cons.mp distinct).2
  · rw [distinct_concat, filter_ne_of_not_contains free]
    exact ⟨consistent.processingDistinct, free⟩
  · intro other member
    rw [contains_filter_ne, consistent.dirty_of_waiting other (inLine other member)]
    simp [bne, apart other member]
  · intro other member
    rw [List.contains_append, filter_ne_of_not_contains free,
      consistent.free_of_waiting other (inLine other member)]
    simpa using apart other member
  · intro opened other dirty unheld
    rw [contains_filter_ne, Bool.and_eq_true] at dirty
    rw [List.contains_append, filter_ne_of_not_contains free, Bool.or_eq_false_iff] at unheld
    have member := consistent.waiting_of_dirty opened other dirty.1 unheld.1
    rw [line, List.contains_cons, Bool.or_eq_true] at member
    rcases member with same | later
    · simp [bne, same] at dirty
    · exact later

theorem Consistent.take {q : WorkQueue κ} (consistent : q.Consistent) (caller : Nat) :
    (q.take caller).2.Consistent := by
  obtain ⟨-, same⟩ | ⟨key, rest, head, same⟩ | ⟨rest, head, same⟩ := take_cases q caller
  · rw [same]
    exact consistent.congr rfl rfl rfl rfl
  · rw [same]
    exact consistent.hand_out head
  · rw [same]
    refine consistent.congr ?_ (put_dirty _ _) (put_processing _ _) (put_shuttingDown _ _)
    rw [put_inner, head, consistent.inner_of_marker head, List.nil_append]

theorem Consistent.retake {q : WorkQueue κ} (consistent : q.Consistent) (caller : Nat) :
    (q.retake caller).2.Consistent := by
  have again : ({ q with woken := q.woken.erase caller } : WorkQueue κ).Consistent :=
    consistent.congr rfl rfl rfl rfl
  exact again.take caller

section Finish

variable (q : WorkQueue κ) (key : κ)

omit [EquivBEq κ] in
@[simp] theorem finish_dirty : (q.finish key).dirty = q.dirty := by
  simp only [finish]
  split <;> simp

omit [EquivBEq κ] in
@[simp] theorem finish_processing :
    (q.finish key).processing = q.processing.filter (· != key) := by
  simp only [finish]
  split <;> simp

omit [EquivBEq κ] in
@[simp] theorem finish_timers : (q.finish key).timers = q.timers := by
  simp only [finish]
  split <;> simp

omit [EquivBEq κ] in
@[simp] theorem finish_shuttingDown : (q.finish key).shuttingDown = q.shuttingDown := by
  simp only [finish]
  split <;> simp

/-- A key that was asked for while it was held goes back in line. -/
theorem waiting_finish (opened : q.shuttingDown = false) (asked : q.dirty.contains key = true) :
    (q.finish key).waiting.contains key = true := by
  have finished : q.finish key =
      { q with processing := q.processing.filter (· != key) }.put (.key key) := by
    simp [finish, opened, asked]
  rw [finished, waiting_put_key]
  simp

end Finish

/-- The holder of a key finishes it. -/
theorem Consistent.finish {q : WorkQueue κ} (consistent : q.Consistent) {key : κ}
    (held : q.processing.contains key = true) : (q.finish key).Consistent := by
  have absent : q.waiting.contains key = false := by
    apply Bool.eq_false_iff.mpr
    intro member
    rw [consistent.free_of_waiting key member] at held
    cases held
  have released :
      ({ q with processing := q.processing.filter (· != key) } : WorkQueue κ).Exclusive :=
    { line := consistent.line
      waitingDistinct := consistent.waitingDistinct
      processingDistinct := consistent.processingDistinct.filter _
      dirty_of_waiting := consistent.dirty_of_waiting
      free_of_waiting := fun other member => by
        simp only [contains_filter_ne, consistent.free_of_waiting other member, Bool.false_and] }
  have others : q.shuttingDown = false → ∀ other, q.dirty.contains other = true →
      (q.processing.filter (· != key)).contains other = false →
      q.waiting.contains other = true ∨ (other == key) = true := by
    intro opened other dirty unheld
    rw [contains_filter_ne, Bool.and_eq_false_iff] at unheld
    rcases unheld with unheld | same
    · exact Or.inl (consistent.waiting_of_dirty opened other dirty unheld)
    · exact Or.inr (by simpa [bne] using same)
  simp only [WorkQueue.finish]
  split
  · next again =>
      rw [Bool.and_eq_true, Bool.not_eq_true'] at again
      exact released.put_key again.2 again.1 (contains_filter_ne_self _ _) absent (others again.2)
  · next once =>
      refine ⟨released, ?_⟩
      intro opened other dirty unheld
      rcases others opened other dirty unheld with member | same
      · exact member
      · have asked : q.dirty.contains key = true := by
          rw [← List.contains_congr same]
          exact dirty
        exact absurd (by simp [asked, show q.shuttingDown = false from opened]) once

/-! ## Failures, timers and the shutdown -/

/-- A timer is set for the key. -/
def isArmed (q : WorkQueue κ) (key : κ) : Bool :=
  q.timers.any fun timer => timer.key == key

theorem Consistent.fire {q : WorkQueue κ} (consistent : q.Consistent) (key : κ) :
    (q.fire key).Consistent := by
  have disarmed :
      ({ q with timers := q.timers.filter fun timer => timer.key != key } : WorkQueue κ).Consistent :=
    consistent.congr rfl rfl rfl rfl
  exact disarmed.add key

omit [EquivBEq κ] in
theorem Consistent.forget {q : WorkQueue κ} (consistent : q.Consistent) (key : κ) :
    (q.forget key).Consistent :=
  consistent.congr rfl rfl rfl rfl

section AddAfter

variable (q : WorkQueue κ) (key : κ) (delay now : Float) (serial : Nat)

omit [EquivBEq κ] in
/-- The three things that can come of asking for a key after a delay. -/
theorem addAfter_cases :
    (q.shuttingDown = true ∧ q.addAfter key delay now serial = q) ∨
    (q.shuttingDown = false ∧ q.addAfter key delay now serial = q.add key) ∨
    (q.shuttingDown = false ∧ q.addAfter key delay now serial =
      { q with timers := (q.timers.filter fun timer => timer.key != key) ++
        [⟨key, now + delay, serial⟩] }) := by
  unfold addAfter
  split
  · next closed => exact Or.inl ⟨closed, rfl⟩
  · next opened =>
      have opened : q.shuttingDown = false := by simpa using opened
      split
      · exact Or.inr (Or.inl ⟨opened, rfl⟩)
      · exact Or.inr (Or.inr ⟨opened, rfl⟩)

omit [EquivBEq κ] in
@[simp] theorem addAfter_processing :
    (q.addAfter key delay now serial).processing = q.processing := by
  obtain ⟨-, same⟩ | ⟨-, same⟩ | ⟨-, same⟩ := addAfter_cases q key delay now serial <;> simp [same]

omit [EquivBEq κ] in
@[simp] theorem addAfter_shuttingDown :
    (q.addAfter key delay now serial).shuttingDown = q.shuttingDown := by
  obtain ⟨-, same⟩ | ⟨-, same⟩ | ⟨-, same⟩ := addAfter_cases q key delay now serial <;> simp [same]

omit [EquivBEq κ] in
theorem dirty_addAfter {other : κ} (asked : q.dirty.contains other = true) :
    (q.addAfter key delay now serial).dirty.contains other = true := by
  obtain ⟨-, same⟩ | ⟨-, same⟩ | ⟨-, same⟩ := addAfter_cases q key delay now serial
  · rw [same]
    exact asked
  · rw [same]
    exact dirty_add q key asked
  · rw [same]
    exact asked

/-- A key that is to come back later is asked for at once or has a timer. -/
theorem dirty_or_armed_addAfter (opened : q.shuttingDown = false) :
    (q.addAfter key delay now serial).dirty.contains key = true ∨
      (q.addAfter key delay now serial).isArmed key = true := by
  obtain ⟨closed, -⟩ | ⟨-, same⟩ | ⟨-, same⟩ := addAfter_cases q key delay now serial
  · rw [opened] at closed
    cases closed
  · rw [same]
    exact Or.inl (dirty_add_self q key opened)
  · rw [same]
    exact Or.inr (by simp [isArmed])

/-- The timers of other keys stay set. -/
theorem isArmed_addAfter {other : κ} (different : (other == key) = false)
    (armed : q.isArmed other = true) :
    (q.addAfter key delay now serial).isArmed other = true := by
  obtain ⟨-, same⟩ | ⟨-, same⟩ | ⟨-, same⟩ := addAfter_cases q key delay now serial
  · rw [same]
    exact armed
  · rw [same]
    simpa [isArmed] using armed
  · rw [same]
    obtain ⟨timer, member, agrees⟩ := List.any_eq_true.mp armed
    have apart : (timer.key == key) = false := by
      rw [BEq.congr_left agrees]
      exact different
    exact List.any_eq_true.mpr ⟨timer, by simp [member, bne, apart], agrees⟩

theorem Consistent.addAfter {q : WorkQueue κ} (consistent : q.Consistent) (key : κ)
    (delay now : Float) (serial : Nat) : (q.addAfter key delay now serial).Consistent := by
  obtain ⟨-, same⟩ | ⟨-, same⟩ | ⟨-, same⟩ := addAfter_cases q key delay now serial
  · rw [same]
    exact consistent
  · rw [same]
    exact consistent.add key
  · rw [same]
    exact consistent.congr rfl rfl rfl rfl

end AddAfter

theorem Consistent.addRateLimited {q : WorkQueue κ} (consistent : q.Consistent)
    (policy : Backoff Float) (random : Float) (key : κ) (now : Float) (serial : Nat) :
    (q.addRateLimited policy random key now serial).2.Consistent := by
  have counted : (q.setFailures key (q.failureCount key + 1)).Consistent :=
    consistent.congr rfl rfl rfl rfl
  exact counted.addAfter key _ now serial

omit [BEq κ] [EquivBEq κ] in
@[simp] theorem shutdown_processing (q : WorkQueue κ) :
    q.shutdown.processing = q.processing := by
  unfold shutdown
  split <;> simp

omit [BEq κ] [EquivBEq κ] in
@[simp] theorem shutdown_dirty (q : WorkQueue κ) : q.shutdown.dirty = q.dirty := by
  unfold shutdown
  split <;> simp

omit [BEq κ] [EquivBEq κ] in
theorem shutdown_shuttingDown (q : WorkQueue κ) : q.shutdown.shuttingDown = true := by
  unfold shutdown
  split <;> simp_all

omit [EquivBEq κ] in
theorem Consistent.shutdown {q : WorkQueue κ} (consistent : q.Consistent) :
    q.shutdown.Consistent := by
  unfold WorkQueue.shutdown
  split
  · exact consistent
  · next opened =>
      have waiting : ({ q with shuttingDown := true, timers := [] }.put .marker).waiting =
          q.waiting := waiting_put_marker _
      refine ⟨⟨?_, ?_, ?_, ?_, ?_⟩, ?_⟩
      · have line := consistent.line
        rw [if_neg opened, List.append_nil] at line
        rw [waiting, put_inner, put_shuttingDown, if_pos rfl, ← line]
      · rw [waiting]
        exact consistent.waitingDistinct
      · rw [put_processing]
        exact consistent.processingDistinct
      · rw [waiting, put_dirty]
        exact consistent.dirty_of_waiting
      · rw [waiting, put_processing]
        exact consistent.free_of_waiting
      · simp

end WorkQueue

end AppOperator
