import AppOperator.Watch.Watcher

/-!
# What a watcher outlives

Whatever the cluster answers, the loops of a watcher go on (`Standing`).  The resync
outlives errors of the API; any other fault ends it, and the watcher with it.
-/

set_option autoImplicit false

namespace AppOperator

/-- Something happens to a watcher: to one of its loops, or a resync is answered. -/
inductive WatcherEvent where
  | loop (taking : Bool) (kind : ResourceKind) (input : WatchInput)
  | resync (taking : Bool) (answer : Listing)

/-- The fault with which a resync ends on account of an event. -/
def WatcherEvent.harm? : WatcherEvent → Option Fault
  | .loop _ _ _ => none
  | .resync _ (.error (.api _)) => none
  | .resync _ (.error fault) => some fault
  | .resync taking (.ok (items, _)) => (keysOf taking .simpleApp items).2

namespace Watcher

/-- The watcher after an event; what cannot happen to a loop at its stage is passed over. -/
def after (w : Watcher) : WatcherEvent → Watcher
  | .loop taking kind input => ((w.turn taking kind input).map (·.2)).getD w
  | .resync taking answer => (w.resynced taking answer).2

def run (w : Watcher) (events : List WatcherEvent) : Watcher :=
  events.foldl after w

end Watcher

/-! ## Loops -/

variable {l : WatchLoop} {taking : Bool} {input : WatchInput} {turn : WatchTurn}

namespace WatchLoop

theorem afterFailure_kind (l : WatchLoop) (fault : Fault) :
    (l.afterFailure fault).kind = l.kind := by
  cases expired : fault.isExpired <;> simp [afterFailure, expired]

theorem afterFailure_goesOn (l : WatchLoop) (fault : Fault) :
    (l.afterFailure fault).stage ≠ .ended := by
  cases expired : fault.isExpired <;> simp [afterFailure, expired]

theorem round_calls (l : WatchLoop) : l.round.stage = .listing ∨ l.round.stage = .watching := by
  by_cases unplaced : l.position = .null
  · left
    simp [round, unplaced]
  · right
    simp [round, unplaced]

theorem round_goesOn (l : WatchLoop) : l.round.stage ≠ .ended := by
  rcases l.round_calls with calls | calls <;> simp [calls]

/-- A turn leaves a loop over its kind, and does not end it. -/
theorem step_goesOn (steps : l.step taking input = some turn) :
    turn.loop.kind = l.kind ∧ turn.loop.stage ≠ .ended := by
  unfold step at steps
  split at steps
  · split at steps
    · cases steps
      exact ⟨l.afterFailure_kind _, l.afterFailure_goesOn _⟩
    · cases steps
      exact ⟨rfl, by simp⟩
  · cases steps
    exact ⟨l.afterFailure_kind _, l.afterFailure_goesOn _⟩
  · next watching =>
      split at steps
      · cases steps
        exact ⟨l.afterFailure_kind _, l.afterFailure_goesOn _⟩
      · dsimp only at steps
        split at steps
        · cases steps
          exact ⟨afterFailure_kind _ _, afterFailure_goesOn _ _⟩
        · cases steps
          exact ⟨rfl, by simp [watching]⟩
  · cases steps
    exact ⟨rfl, l.round_goesOn⟩
  · cases steps
    exact ⟨l.afterFailure_kind _, l.afterFailure_goesOn _⟩
  · cases steps
    exact ⟨rfl, l.round_goesOn⟩
  · cases steps

/-- What a loop does with anything that can come of what it is about to do: it takes any
answer to its list, any event and any end of its stream, and calls again after a pause. -/
structure GoesOn (l : WatchLoop) : Prop where
  alive : l.stage ≠ .ended
  lists : l.stage = .listing → ∀ taking (answer : Listing),
    (l.step taking answer.input).isSome = true
  watches : l.stage = .watching → ∀ taking, (l.step taking .closed).isSome = true ∧
    (∀ event, (l.step taking (.event event)).isSome = true) ∧
    ∀ fault, (l.step taking (.failed fault)).isSome = true
  rests : l.stage = .pausing → ∀ taking, ∃ turn, l.step taking .rested = some turn ∧
    (turn.loop.stage = .listing ∨ turn.loop.stage = .watching)

theorem goesOn_of_alive (alive : l.stage ≠ .ended) : l.GoesOn where
  alive := alive
  lists listing taking answer := by
    cases answer with
    | error fault => simp [step, Listing.input, listing]
    | ok listed =>
        simp only [step, Listing.input, listing]
        split <;> rfl
  watches watching taking := by
    refine ⟨by simp [step, watching], fun event => ?_, fun fault => by simp [step, watching]⟩
    simp only [step, watching]
    split
    · rfl
    · split <;> rfl
  rests pausing taking := by
    refine ⟨⟨l.round, [], false⟩, ?_, l.round_calls⟩
    simp only [step, pausing]

end WatchLoop

/-! ## The watcher -/

variable {w : Watcher} {harm : Option Fault}

/-- The loops are all there and go on; only what has done harm to the resync ends anything. -/
structure Watcher.Standing (w : Watcher) (harm : Option Fault) : Prop where
  running : w.running = true
  kinds : w.loops.map (·.kind) = ResourceKind.watched
  alive : ∀ loop ∈ w.loops, loop.stage ≠ .ended
  fault : w.fault? = harm
  resync : w.resync = if harm.isSome then .ended else .waiting

namespace Watcher.Standing

theorem start (namespaceName : Option String) (pace : WatchPace) :
    ((Watcher.new namespaceName pace).start).Standing none where
  running := rfl
  kinds := rfl
  alive := by
    intro loop among
    obtain ⟨kind, -, rfl⟩ := List.mem_map.1 among
    simp [WatchLoop.new]
  fault := rfl
  resync := rfl

theorem loop_of_kind (stands : w.Standing harm) {kind : ResourceKind}
    (watched : kind ∈ ResourceKind.watched) : ∃ loop, w.loop? kind = some loop ∧ loop.GoesOn := by
  rw [← stands.kinds] at watched
  obtain ⟨loop, among, rfl⟩ := List.mem_map.1 watched
  cases found : w.loop? loop.kind with
  | none =>
      have none := List.find?_eq_none.1 found loop among
      simp at none
  | some other =>
      exact ⟨other, rfl, WatchLoop.goesOn_of_alive
        (stands.alive other (List.mem_of_find?_eq_some found))⟩

/-- A loop that goes on takes the place of the loop over its kind. -/
theorem setLoop (stands : w.Standing harm) {loop : WatchLoop} (alive : loop.stage ≠ .ended) :
    (w.setLoop loop).Standing harm where
  running := stands.running
  kinds := by
    rw [← stands.kinds, Watcher.setLoop, List.map_map]
    refine List.map_congr_left fun other _ => ?_
    by_cases same : other.kind = loop.kind <;> simp [same]
  alive := by
    intro other among
    obtain ⟨before, stood, rfl⟩ := List.mem_map.1 among
    by_cases same : before.kind = loop.kind
    · simpa [same] using alive
    · simpa [same] using stands.alive before stood
  fault := stands.fault
  resync := stands.resync

theorem markSynced (stands : w.Standing harm) (kind : ResourceKind) :
    (w.markSynced kind).Standing harm := by
  unfold Watcher.markSynced
  split
  · exact stands
  · exact ⟨stands.running, stands.kinds, stands.alive, stands.fault, stands.resync⟩

theorem of_turn {taking : Bool} {kind : ResourceKind} {input : WatchInput}
    {result : List ObjectKey × Watcher} (stands : w.Standing harm)
    (turns : w.turn taking kind input = some result) : result.2.Standing harm := by
  simp only [Watcher.turn, Option.bind_eq_bind, Option.bind_eq_some_iff, Option.pure_def,
    Option.some.injEq] at turns
  obtain ⟨loop, -, taken, steps, rfl⟩ := turns
  have stands := stands.setLoop (WatchLoop.step_goesOn steps).2
  dsimp only
  split
  · exact stands.markSynced kind
  · exact stands

theorem breakResync (stands : w.Standing none) (fault : Fault) :
    (w.breakResync fault).Standing (some fault) where
  running := stands.running
  kinds := stands.kinds
  alive := stands.alive
  fault := by rw [Watcher.breakResync, stands.fault, Option.none_or]
  resync := rfl

theorem resynced (stands : w.Standing harm) (taking : Bool) (answer : Listing) :
    (w.resynced taking answer).2.Standing (harm.or (WatcherEvent.resync taking answer).harm?) := by
  cases harm with
  | some fault =>
      -- nothing is asked of the cluster any more, so this answer does no harm of its own
      have ended : w.resync = .ended := stands.resync
      simpa only [Watcher.resynced, ended, Option.some_or] using stands
  | none =>
      have waiting : w.resync = .waiting := stands.resync
      rw [Option.none_or]
      cases answer with
      | error fault =>
          cases fault with
          | api error => simpa only [Watcher.resynced, waiting, WatcherEvent.harm?] using stands
          | _ =>
              simpa only [Watcher.resynced, waiting, WatcherEvent.harm?] using stands.breakResync _
      | ok listed =>
          obtain ⟨items, version⟩ := listed
          simp only [Watcher.resynced, waiting, WatcherEvent.harm?]
          split
          · next none => simpa only [none] using stands
          · next fault some => simpa only [some] using stands.breakResync fault

theorem after (stands : w.Standing harm) (event : WatcherEvent) :
    (w.after event).Standing (harm.or event.harm?) := by
  cases event with
  | loop taking kind input =>
      rw [Watcher.after, WatcherEvent.harm?, Option.or_none]
      cases turns : w.turn taking kind input with
      | none => exact stands
      | some result => exact stands.of_turn turns
  | resync taking answer => exact stands.resynced taking answer

theorem run (stands : w.Standing harm) (events : List WatcherEvent) :
    (w.run events).Standing (harm.or (events.findSome? (·.harm?))) := by
  induction events generalizing w harm with
  | nil => simpa [Watcher.run] using stands
  | cons event events ih =>
      have others := ih (stands.after event)
      rw [Option.or_assoc] at others
      rw [List.findSome?_cons]
      cases harmed : event.harm? <;> simpa [Watcher.run, harmed] using others

end Watcher.Standing

/-- A watcher that has been started runs on whatever the cluster answers, and its loops go
on from every failure.  What ends is the resync, with the first of its answers that is
neither an error of the API nor a list of objects with keys; that is the watcher's fault. -/
theorem watcher_outlives_all_but_a_broken_resync (namespaceName : Option String)
    (pace : WatchPace) (events : List WatcherEvent) :
    let w := (Watcher.new namespaceName pace).start.run events
    w.running = true ∧
      (∀ kind ∈ ResourceKind.watched, ∃ loop, w.loop? kind = some loop ∧ loop.GoesOn) ∧
      w.fault? = events.findSome? (·.harm?) ∧
      w.resync = if w.fault?.isSome then .ended else .waiting := by
  have stands := (Watcher.Standing.start namespaceName pace).run events
  rw [Option.none_or] at stands
  refine ⟨stands.running, fun kind watched => stands.loop_of_kind watched, stands.fault, ?_⟩
  rw [stands.fault]
  exact stands.resync

/-- A resync that is answered with a failure other than an error of the API ends. -/
theorem failure_ends_the_resync :
    let w := (Watcher.new none .default).start.run [.resync true (.error (.failure "boom"))]
    w.resync = .ended ∧ w.fault? = some (.failure "boom") :=
  ⟨rfl, rfl⟩

end AppOperator
