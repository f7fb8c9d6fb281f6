import AppOperator.Proofs.Application.Course

/-!
# Readiness

A kind counts as listed once a loop has gone through a whole list of it, which it does by asking
for a pass over every key that is there.  So an application that says it is ready has asked for a
pass over everything that was in at least one list of each kind.
-/

set_option autoImplicit false

namespace AppOperator

/-! ## Lists -/

/-- The keys of objects have all been asked for in the course of events of a controller. -/
def Covers (events : List (ControllerEvent ObjectKey)) (kind : ResourceKind)
    (items : List Json) : Prop :=
  ∀ item ∈ items, ∃ key?, keyFor kind item = .ok key? ∧
    ∀ key, key? = some key → .enqueue key ∈ events

theorem Covers.mono {events more : List (ControllerEvent ObjectKey)} {kind : ResourceKind}
    {items : List Json} (covers : Covers events kind items)
    (among : ∀ event ∈ events, event ∈ more) : Covers more kind items := by
  intro item member
  obtain ⟨key?, keyed, asked⟩ := covers item member
  exact ⟨key?, keyed, fun key isKey => among _ (asked key isKey)⟩

theorem asked_of_noFault {taking : Bool} {kind : ResourceKind} {object : Json}
    {keys : List ObjectKey} (asks : asked taking kind object = (keys, none)) :
    ∃ key?, keyFor kind object = .ok key? ∧ keys = key?.toList ∧
      ∀ key, key? = some key → key.refusal? taking = none := by
  unfold asked at asks
  split at asks
  · cases asks
  · next keyed =>
      cases asks
      exact ⟨none, keyed, rfl, by simp⟩
  · next key keyed =>
      obtain ⟨rfl, accepted⟩ := Prod.mk.inj asks
      refine ⟨some key, keyed, rfl, ?_⟩
      rintro _ ⟨⟩
      exact accepted

/-- A list without a fault has been gone through to its end. -/
theorem mem_keysOf_of_noFault {taking : Bool} {kind : ResourceKind} {items : List Json}
    (noFault : (keysOf taking kind items).2 = none) {item : Json} (among : item ∈ items) :
    ∃ key?, keyFor kind item = .ok key? ∧ ∀ key, key? = some key →
      key ∈ (keysOf taking kind items).1 ∧ key.refusal? taking = none := by
  induction items with
  | nil => cases among
  | cons first rest ih =>
      simp only [keysOf] at noFault ⊢
      split at noFault
      · cases noFault
      · next keys asks =>
          rcases List.mem_cons.mp among with rfl | later
          · obtain ⟨key?, keyed, rfl, accepted⟩ := asked_of_noFault asks
            refine ⟨key?, keyed, ?_⟩
            rintro key rfl
            exact ⟨by simp, accepted key rfl⟩
          · obtain ⟨key?, keyed, asked⟩ := ih noFault later
            refine ⟨key?, keyed, fun key isKey => ?_⟩
            obtain ⟨member, accepted⟩ := asked key isKey
            exact ⟨by simp [member], accepted⟩

namespace Watcher

variable {w : Watcher} {taking : Bool} {kind : ResourceKind} {input : WatchInput}

/-- The list that a loop has gone through to its end, if this is what an input comes to. -/
def completed? (w : Watcher) (taking : Bool) (kind : ResourceKind) : WatchInput → Option (List Json)
  | .listed items _ =>
      if (w.loop? kind).any (fun loop => loop.stage = .listing) &&
        (keysOf taking kind items).2.isNone then some items else none
  | _ => none

theorem kind_of_loop? {loop : WatchLoop} (found : w.loop? kind = some loop) : loop.kind = kind := by
  simpa using List.find?_some found

/-- A turn marks a kind exactly when it completes a list. -/
theorem listed_iff {loop : WatchLoop} {taken : WatchTurn} (found : w.loop? kind = some loop)
    (steps : loop.step taking input = some taken) :
    taken.listed = (w.completed? taking kind input).isSome := by
  have sameKind := kind_of_loop? found
  unfold WatchLoop.step at steps
  split at steps
  · next listing =>
      rw [sameKind] at steps
      split at steps
      · next keys fault broken =>
          cases steps
          simp [completed?, broken]
      · next keys whole =>
          cases steps
          simp [completed?, found, listing, whole]
  · cases steps
    rfl
  · split at steps
    · cases steps
      rfl
    · dsimp only at steps
      split at steps
      · cases steps
        rfl
      · cases steps
        rfl
  · cases steps
    rfl
  · cases steps
    rfl
  · cases steps
    rfl
  · cases steps

theorem mem_markSynced (w : Watcher) (kind : ResourceKind) (name : String) :
    name ∈ (w.markSynced kind).synced ↔ name ∈ w.synced ∨ name = kind.name := by
  unfold markSynced
  split
  · next known =>
      constructor
      · exact .inl
      · rintro (member | rfl)
        · exact member
        · exact known
  · simp

/-- What a turn leaves: the loops over the same kinds, and the kind marked when a list of it
has been completed. -/
theorem turn_marks {keys : List ObjectKey} {after : Watcher}
    (turns : w.turn taking kind input = some (keys, after)) :
    (∃ loop ∈ w.loops, loop.kind = kind) ∧
      after.loops.map (·.kind) = w.loops.map (·.kind) ∧
      ∀ name, name ∈ after.synced ↔
        name ∈ w.synced ∨ ((w.completed? taking kind input).isSome = true ∧ name = kind.name) := by
  simp only [turn, Option.bind_eq_bind, Option.bind_eq_some_iff, Option.pure_def,
    Option.some.injEq, Prod.mk.injEq] at turns
  obtain ⟨loop, found, taken, steps, -, rfl⟩ := turns
  have kinds : (w.setLoop taken.loop).loops.map (·.kind) = w.loops.map (·.kind) := by
    rw [setLoop, List.map_map]
    refine List.map_congr_left fun other _ => ?_
    by_cases same : other.kind = taken.loop.kind <;> simp [same]
  refine ⟨⟨loop, List.mem_of_find?_eq_some found, kind_of_loop? found⟩, ?_⟩
  rw [← listed_iff found steps]
  cases taken.listed with
  | false => exact ⟨kinds, by simp [setLoop]⟩
  | true =>
      refine ⟨?_, fun name => by simp [mem_markSynced, setLoop]⟩
      rw [← kinds, if_pos rfl, markSynced]
      split <;> rfl

theorem resynced_marks (w : Watcher) (taking : Bool) (answer : Listing) :
    (w.resynced taking answer).2.loops = w.loops ∧
      (w.resynced taking answer).2.synced = w.synced := by
  unfold resynced
  split
  · exact ⟨rfl, rfl⟩
  · exact ⟨rfl, rfl⟩
  · split <;> exact ⟨rfl, rfl⟩
  · exact ⟨rfl, rfl⟩

theorem listed_of_completed {items : List Json}
    (completed : w.completed? taking kind input = some items) :
    (∃ version, input = .listed items version) ∧ (keysOf taking kind items).2 = none ∧
      ∃ loop, w.loop? kind = some loop ∧ loop.stage = .listing := by
  cases input with
  | listed listed version =>
      simp only [completed?, Option.ite_none_right_eq_some, Bool.and_eq_true,
        Option.isNone_iff_eq_none, Option.some.injEq, Option.any_eq_true,
        decide_eq_true_eq] at completed
      obtain ⟨⟨lists, noFault⟩, rfl⟩ := completed
      exact ⟨⟨version, rfl⟩, noFault, lists⟩
  | _ => cases completed

theorem keys_of_completed {items : List Json} {keys : List ObjectKey} {after : Watcher}
    (completed : w.completed? taking kind input = some items)
    (turns : w.turn taking kind input = some (keys, after)) :
    keys = (keysOf taking kind items).1 := by
  obtain ⟨⟨version, rfl⟩, noFault, loop, found, listing⟩ := listed_of_completed completed
  have whole : keysOf taking loop.kind items = ((keysOf taking kind items).1, none) := by
    rw [kind_of_loop? found, ← noFault]
  simp only [turn, found, WatchLoop.step, listing, whole, Option.bind_eq_bind, Option.bind_some,
    Option.pure_def, Option.some.injEq, Prod.mk.injEq] at turns
  exact turns.1.symm

end Watcher

namespace Application

variable {a after : Application} {event : ApplicationEvent} {events : List ApplicationEvent}

def completes (a : Application) : ApplicationEvent → Option (ResourceKind × List Json)
  | .watch kind input =>
      (a.watcher.completed? a.controller.isTaking kind input).map fun items => (kind, items)
  | _ => none

/-- The lists that are completed in the course of events. -/
def lists (a : Application) : List ApplicationEvent → List (ResourceKind × List Json)
  | [] => []
  | event :: rest =>
      match a.step? event with
      | some after => (a.completes event).toList ++ after.lists rest
      | none => []

/-! ## What is marked -/

/-- The loops are over watched kinds. -/
def Watches (a : Application) : Prop :=
  ∀ loop ∈ a.watcher.loops, loop.kind ∈ ResourceKind.watched

theorem completes_eq_some_iff {kind : ResourceKind} {items : List Json} :
    a.completes event = some (kind, items) ↔ ∃ input, event = .watch kind input ∧
      a.watcher.completed? a.controller.isTaking kind input = some items := by
  cases event with
  | watch other input =>
      simp only [completes, Option.map_eq_some_iff, Prod.mk.injEq, ApplicationEvent.watch.injEq]
      constructor
      · rintro ⟨items, completed, rfl, rfl⟩
        exact ⟨input, ⟨rfl, rfl⟩, completed⟩
      · rintro ⟨input, ⟨rfl, rfl⟩, completed⟩
        exact ⟨items, completed, rfl, rfl⟩
  | _ => simp [completes]

theorem eq_of_name : ∀ kind ∈ ResourceKind.watched, ∀ other ∈ ResourceKind.watched,
    kind.name = other.name → kind = other := by
  decide

theorem Watches.congr (watches : a.Watches)
    (kinds : after.watcher.loops.map (·.kind) = a.watcher.loops.map (·.kind)) : after.Watches := by
  intro loop among
  have member : loop.kind ∈ a.watcher.loops.map (·.kind) := kinds ▸ List.mem_map_of_mem among
  obtain ⟨before, stood, same⟩ := List.mem_map.mp member
  exact same ▸ watches before stood

theorem marks_of_step? (watches : a.Watches) (step : a.step? event = some after) :
    after.Watches ∧ ∀ kind ∈ ResourceKind.watched, kind.name ∈ after.watcher.synced ↔
      kind.name ∈ a.watcher.synced ∨ ∃ items, a.completes event = some (kind, items) := by
  -- only a turn of a loop marks a kind
  have unmarked : after.watcher.loops.map (·.kind) = a.watcher.loops.map (·.kind) →
      after.watcher.synced = a.watcher.synced → a.completes event = none →
      after.Watches ∧ ∀ kind ∈ ResourceKind.watched, kind.name ∈ after.watcher.synced ↔
        kind.name ∈ a.watcher.synced ∨ ∃ items, a.completes event = some (kind, items) := by
    intro kinds synced none
    refine ⟨watches.congr kinds, fun kind _ => ?_⟩
    rw [synced, none]
    simp
  cases steps_of_step? step with
  | called | resyncLeft | stopAsked | stopIgnored | watchesLeft | closed =>
      exact unmarked rfl rfl rfl
  | turned kind input keys watcher turns =>
      obtain ⟨⟨loop, among, rfl⟩, kinds, marked⟩ := Watcher.turn_marks turns
      refine ⟨watches.congr kinds, fun other watched => (marked other.name).trans ?_⟩
      refine or_congr Iff.rfl ?_
      rw [Option.isSome_iff_exists]
      -- kinds are marked by their names, which tell the watched ones apart
      constructor
      · rintro ⟨⟨items, completed⟩, sameName⟩
        have same := eq_of_name other watched loop.kind (watches loop among) sameName
        exact ⟨items, completes_eq_some_iff.mpr ⟨input, by rw [same], by rw [same, completed]⟩⟩
      · rintro ⟨items, completes⟩
        obtain ⟨_, same, completed⟩ := completes_eq_some_iff.mp completes
        cases same
        exact ⟨⟨items, completed⟩, rfl⟩
  | resynced answer waiting =>
      obtain ⟨loops, synced⟩ := a.watcher.resynced_marks a.controller.isTaking answer
      exact unmarked (congrArg _ loops) synced rfl
  | left kind cancelled =>
      refine unmarked ?_ rfl rfl
      change (a.watcher.endLoop kind).loops.map (·.kind) = _
      rw [Watcher.endLoop, List.map_map]
      refine List.map_congr_left fun loop _ => ?_
      by_cases same : loop.kind = kind <;> simp [same]
  | worked _ turn controller isTurn steps =>
      refine unmarked rfl rfl ?_
      cases event <;> cases isTurn <;> rfl

theorem marks_of_run? (watches : a.Watches) (run : a.run? events = some after) :
    after.Watches ∧ ∀ kind ∈ ResourceKind.watched, kind.name ∈ after.watcher.synced ↔
      kind.name ∈ a.watcher.synced ∨ ∃ items, (kind, items) ∈ a.lists events := by
  induction events generalizing a with
  | nil =>
      cases run
      exact ⟨watches, fun kind _ => by simp [lists]⟩
  | cons event rest ih =>
      obtain ⟨middle, step, run⟩ := Option.bind_eq_some_iff.mp run
      obtain ⟨watches, here⟩ := marks_of_step? watches step
      obtain ⟨watches, later⟩ := ih watches run
      refine ⟨watches, fun kind watched => ?_⟩
      rw [later kind watched, here kind watched, or_assoc]
      simp only [lists, step, List.mem_append, Option.mem_toList, exists_or]

/-! ## What is asked for -/

theorem covers_of_completes {kind : ResourceKind} {items : List Json}
    (step : a.step? event = some after) (completes : a.completes event = some (kind, items)) :
    Covers (a.controllerEvents event) kind items := by
  obtain ⟨input, rfl, completed⟩ := completes_eq_some_iff.mp completes
  cases steps_of_step? step with
  | worked _ turn controller isTurn steps => cases isTurn
  | turned _ _ keys watcher turns =>
      obtain ⟨-, noFault, -⟩ := Watcher.listed_of_completed completed
      have asked := Watcher.keys_of_completed completed turns
      intro item among
      obtain ⟨key?, keyed, asks⟩ := mem_keysOf_of_noFault noFault among
      refine ⟨key?, keyed, fun key isKey => ?_⟩
      obtain ⟨member, accepted⟩ := asks key isKey
      rw [← asked] at member
      simp only [controllerEvents, turns, Controller.requests]
      exact List.mem_map_of_mem (List.mem_filter.mpr ⟨member, by simp [accepted]⟩)

theorem covers_of_lists {kind : ResourceKind} {items : List Json}
    (run : a.run? events = some after) (completed : (kind, items) ∈ a.lists events) :
    Covers (a.controllerCourse events) kind items := by
  induction events generalizing a with
  | nil => cases completed
  | cons event rest ih =>
      obtain ⟨middle, step, run⟩ := Option.bind_eq_some_iff.mp run
      simp only [lists, controllerCourse, step] at completed ⊢
      rcases List.mem_append.mp completed with here | later
      · rw [Option.mem_toList] at here
        exact (covers_of_completes step here).mono fun _ => List.mem_append_left _
      · exact (ih run later).mono fun _ => List.mem_append_right _

/-! ## What the probes say -/

theorem status_readiness_iff (v : ProbeView) :
    v.readiness.status = 200 ↔ v.controller.running = true ∧ v.synced ≠ some false := by
  unfold ProbeView.readiness
  cases v.controller.running with
  | false => simp [ProbeAnswer.status]
  | true =>
      by_cases behind : v.synced = some false
      · simp [behind, ProbeAnswer.status]
      · simp [behind, ProbeAnswer.status]

theorem status_answer_iff (v : ProbeView) (method query : String) :
    (v.answer ⟨method, "/readyz", query⟩).status = 200 ↔
      method = "GET" ∧ v.controller.running = true ∧ v.synced ≠ some false := by
  have page : v.page? query "/readyz" = some v.readiness := rfl
  simp only [ProbeView.answer, page]
  by_cases get : method = "GET"
  · rw [if_pos (by simpa using get), status_readiness_iff]
    simp [get]
  · rw [if_neg (by simpa using get)]
    simp [get, ProbeAnswer.status]

/-- An application counts as in step with the cluster exactly when a list of every watched kind
has been completed, and stays so.  Whenever its probes answer that it is ready, its controller is
running, and a pass has been asked for over every key in a list of each kind. -/
theorem readiness_covers_a_list_of_each_kind {settings : Settings} {client : RestClient}
    (assembled : assembleWith settings client = .ok a) (run : a.start.run? events = some after) :
    (after.watcher.hasSynced = true ↔
      ∀ kind ∈ ResourceKind.watched, ∃ items, (kind, items) ∈ a.start.lists events) ∧
    (∀ more later, after.watcher.hasSynced = true → after.run? more = some later →
      later.watcher.hasSynced = true) ∧
    (∀ method query, (after.probeView.answer ⟨method, "/readyz", query⟩).status = 200 ↔
      method = "GET" ∧ after.controller.running = true ∧ after.watcher.hasSynced = true) ∧
    a.start.controller.run? (a.start.controllerCourse events) = some after.controller ∧
    (∀ method query, (after.probeView.answer ⟨method, "/readyz", query⟩).status = 200 →
      after.controller.running = true ∧ ∀ kind ∈ ResourceKind.watched, ∃ items,
        (kind, items) ∈ a.start.lists events ∧
        Covers (a.start.controllerCourse events) kind items) := by
  have watches : a.start.Watches := by
    intro loop among
    obtain ⟨kind, watched, rfl⟩ := List.mem_map.mp among
    exact watched
  have fresh : a.start.watcher.synced = [] := by
    obtain ⟨-, -, pace, isNew⟩ := parts_of_assembled assembled
    simp [start, Watcher.start, Watcher.watch, isNew, Watcher.new]
  have hasSynced_iff : ∀ w : Watcher, w.hasSynced = true ↔
      ∀ kind ∈ ResourceKind.watched, kind.name ∈ w.synced := by
    intro w
    simp [Watcher.hasSynced]
  obtain ⟨watches, marked⟩ := marks_of_run? watches run
  have inStep : after.watcher.hasSynced = true ↔
      ∀ kind ∈ ResourceKind.watched, ∃ items, (kind, items) ∈ a.start.lists events := by
    rw [hasSynced_iff]
    refine forall₂_congr fun kind watched => ?_
    rw [marked kind watched, fresh]
    simp
  have answers : ∀ method query,
      (after.probeView.answer ⟨method, "/readyz", query⟩).status = 200 ↔
        method = "GET" ∧ after.controller.running = true ∧ after.watcher.hasSynced = true := by
    intro method query
    rw [status_answer_iff]
    simp [probeView]
  refine ⟨inStep, ?_, answers, run?_controllerCourse run, ?_⟩
  · intro more later synced run'
    rw [hasSynced_iff] at synced ⊢
    intro kind watched
    exact ((marks_of_run? watches run').2 kind watched).mpr (.inl (synced kind watched))
  · intro method query ready
    obtain ⟨-, running, synced⟩ := (answers method query).mp ready
    refine ⟨running, fun kind watched => ?_⟩
    obtain ⟨items, completed⟩ := inStep.mp synced kind watched
    exact ⟨items, completed, covers_of_lists run completed⟩

/-- A request fails and a list breaks off before they are made again; the application is not ready
until the last kind has been listed, and then the owner of what is in that list has been asked
for. -/
theorem readiness_covers_a_list_after_failures :
    let owned : Json := .obj [("metadata", .obj [("name", .str "api"), ("ownerReferences", .arr
      [.obj [("apiVersion", .str "apps.myapp.io/v1"), ("kind", .str "SimpleApp"),
        ("name", .str "api"), ("controller", .bool true)]])])]
    let nameless : Json := .obj [("metadata", .obj [])]
    let events : List ApplicationEvent :=
      [.watch .deployment (.failed (.failure "boom")),
        .watch .simpleApp (.listed [listedDeclaration "web", nameless] (.str "1")),
        .watch .simpleApp .rested, .watch .simpleApp (.listed [listedDeclaration "web"] (.str "2")),
        .watch .service (.listed [] (.str "2")), .watch .ingress (.listed [] (.str "3")),
        .watch .deployment .rested]
    let last : List ApplicationEvent := [.watch .deployment (.listed [owned] (.str "4"))]
    ∃ fresh waiting ready, assembleWith sampleSettings (.ofSettings .default) = .ok fresh ∧
      fresh.start.run? events = some waiting ∧ fresh.start.run? (events ++ last) = some ready ∧
      (waiting.probeView.answer ⟨"GET", "/readyz", ""⟩).status = 503 ∧
      (ready.probeView.answer ⟨"GET", "/readyz", ""⟩).status = 200 ∧
      .enqueue (.ofTexts "default" "api") ∈ fresh.start.controllerCourse (events ++ last) := by
  intro owned nameless events last
  obtain ⟨fresh, waiting, ready, assembled, toWaiting, toReady, notReady, synced, running,
      deployments⟩ :
      ∃ fresh waiting ready, assembleWith sampleSettings (.ofSettings .default) = .ok fresh ∧
        fresh.start.run? events = some waiting ∧ fresh.start.run? (events ++ last) = some ready ∧
        (waiting.probeView.answer ⟨"GET", "/readyz", ""⟩).status = 503 ∧
        ready.watcher.hasSynced = true ∧ ready.controller.running = true ∧
        (fresh.start.lists (events ++ last)).filter (·.1 = .deployment) =
          [(.deployment, [owned])] :=
    ⟨_, _, _, rfl, rfl, rfl, rfl, rfl, rfl, rfl⟩
  obtain ⟨-, -, answers, -, covers⟩ := readiness_covers_a_list_of_each_kind assembled toReady
  have status := (answers "GET" "").mpr ⟨rfl, running, synced⟩
  obtain ⟨-, lists⟩ := covers "GET" "" status
  obtain ⟨items, completed, covered⟩ := lists .deployment (by decide)
  have member : (ResourceKind.deployment, items) ∈
      (fresh.start.lists (events ++ last)).filter (·.1 = .deployment) :=
    List.mem_filter.mpr ⟨completed, by simp⟩
  rw [deployments, List.mem_singleton] at member
  cases member
  obtain ⟨key?, keyed, asked⟩ := covered owned List.mem_cons_self
  have leads : keyFor .deployment owned = .ok (some (.ofTexts "default" "api")) := rfl
  rw [leads] at keyed
  cases keyed
  exact ⟨fresh, waiting, ready, assembled, toWaiting, toReady, notReady, status, asked _ rfl⟩

end Application

end AppOperator
