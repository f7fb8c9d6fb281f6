import AppOperator.Watch.Watcher
import AppOperator.Proofs.Json.Editing

/-!
# Lists and watches in turn

A loop lists its kind and then opens one watch after the other; a script says what its
lists are answered with and what its streams deliver (`WatchScript`).  After every call
the loop is where the calls so far put it (`StandsAfter`): due to list, or to watch from
the last version that it has been told.
-/

set_option autoImplicit false

namespace AppOperator

/-! ## Scripts -/

/-- What a stream delivers, and the fault that ends it, if it does not just end. -/
structure WatchStream where
  events : List WatchEvent
  fault? : Option Fault

def WatchStream.ending (s : WatchStream) : WatchInput :=
  match s.fault? with
  | none => .closed
  | some fault => .failed fault

/-- A call that a loop makes, with what comes of it. -/
inductive WatchCall where
  | list (answer : Listing)
  | watch (position : Json) (stream : WatchStream)

/-- What happens to a loop on account of a call; the pause is over where there is one. -/
def WatchCall.inputs : WatchCall → List WatchInput
  | .list answer => [answer.input, .rested]
  | .watch _ stream => stream.events.map .event ++ [stream.ending, .rested]

def WatchCall.isList : WatchCall → Bool
  | .list _ => true
  | .watch _ _ => false

/-- The turns of a loop; what cannot happen at a stage is passed over. -/
def WatchLoop.follow (taking : Bool) (l : WatchLoop) :
    List WatchInput → List ObjectKey × WatchLoop
  | [] => ([], l)
  | input :: rest =>
      match l.step taking input with
      | none => l.follow taking rest
      | some turn =>
          let (later, after) := turn.loop.follow taking rest
          (turn.keys ++ later, after)

/-- The answers to the lists and the streams of the watches, in order, and whether the
queue takes keys in during each call. -/
structure WatchScript where
  listing : Nat → Listing
  stream : Nat → WatchStream
  taking : Nat → Bool

/-- What a loop has done: its calls and the keys it has asked for. -/
structure WatchCourse where
  calls : List WatchCall
  keys : List ObjectKey
  loop : WatchLoop

namespace WatchScript

/-- The call that comes next, as the stage of the loop has it. -/
def call? (script : WatchScript) (course : WatchCourse) : Option WatchCall :=
  match course.loop.stage with
  | .listing => some (.list (script.listing (course.calls.countP (·.isList))))
  | .watching =>
      some (.watch course.loop.position (script.stream (course.calls.countP (!·.isList))))
  | .pausing => none
  | .ended => none

def next (script : WatchScript) (course : WatchCourse) : WatchCourse :=
  match script.call? course with
  | none => course
  | some call =>
      let (keys, loop) := course.loop.follow (script.taking course.calls.length) call.inputs
      ⟨course.calls ++ [call], course.keys ++ keys, loop⟩

/-- The course of a loop over a number of calls. -/
def course (script : WatchScript) (kind : ResourceKind) : Nat → WatchCourse
  | 0 => ⟨[], [], .new kind⟩
  | n + 1 => script.next (script.course kind n)

end WatchScript

/-! ## What is expected -/

/-- The key of an object can be read and queued, if it has one. -/
def Legible (kind : ResourceKind) (object : Json) : Prop :=
  ∃ key?, keyFor kind object = .ok key? ∧ ∀ key ∈ key?, ∃ usable, key.usable = .ok usable

def WatchEvent.version? (e : WatchEvent) : Option Json :=
  e.object.dig? ["metadata", "resourceVersion"]

structure WatchEvent.WellFormed (kind : ResourceKind) (e : WatchEvent) : Prop where
  isRecord : e.object.IsRecord
  metadata : ∀ metadata, e.object.field? "metadata" = some metadata → metadata.IsRecord
  version : ∀ version, e.version? = some version → ∃ text, version = .str text
  legible : e.type ≠ .str "BOOKMARK" → Legible kind e.object

structure WatchScript.WellFormed (script : WatchScript) (kind : ResourceKind) : Prop where
  items : ∀ n items version, script.listing n = .ok (items, version) →
    ∀ object ∈ items, Legible kind object
  version : ∀ n items version, script.listing n = .ok (items, version) →
    ∃ text, version = .str text
  events : ∀ n, ∀ event ∈ (script.stream n).events, event.WellFormed kind

/-- The server has refused a version as too old. -/
def IsGone (fault : Fault) : Prop :=
  ∃ error, fault = .api error ∧ error.status.isNumber 410 = true

/-- A call after which the kind has to be listed: a list that failed, or a refusal as too old. -/
inductive WatchCall.CallsForList : WatchCall → Prop where
  | list (fault : Fault) : CallsForList (.list (.error fault))
  | watch {position : Json} {stream : WatchStream} {fault : Fault}
      (ends : stream.fault? = some fault) (gone : IsGone fault) :
      CallsForList (.watch position stream)

/-- A list is due after these calls. -/
inductive ListDue : List WatchCall → Prop where
  | start : ListDue []
  | again (earlier : List WatchCall) {last : WatchCall} (callsForList : last.CallsForList) :
      ListDue (earlier ++ [last])

def deliveredBy (calls : List WatchCall) : List WatchEvent :=
  calls.flatMap fun
    | .list _ => []
    | .watch _ stream => stream.events

/-- The last version that events carry, or else the one before them. -/
def lastVersion (events : List WatchEvent) (before : Json) : Json :=
  (events.filterMap WatchEvent.version?).getLastD before

/-- The last version that calls have told: that of the last list, unless an event since
then has carried one. -/
inductive Resumes : List WatchCall → Json → Prop where
  | since (earlier : List WatchCall) (items : List Json) (version : Json)
      {later : List WatchCall} (noList : ∀ call ∈ later, call.isList = false) :
      Resumes (earlier ++ .list (.ok (items, version)) :: later)
        (lastVersion (deliveredBy later) version)

/-- The key that an object maps to. -/
def keyOf? (kind : ResourceKind) (object : Json) : Option ObjectKey :=
  match keyFor kind object with
  | .ok key? => key?
  | .error _ => none

/-- The keys that events map to; bookmarks map to none. -/
def keysTold (kind : ResourceKind) (events : List WatchEvent) : List ObjectKey :=
  (events.filter (·.type ≠ .str "BOOKMARK")).filterMap (keyOf? kind ·.object)

/-- The keys that a call brings: those of all items, or of all events. -/
def WatchCall.keys (kind : ResourceKind) : WatchCall → List ObjectKey
  | .list (.error _) => []
  | .list (.ok (items, _)) => items.filterMap (keyOf? kind)
  | .watch _ stream => keysTold kind stream.events

/-! ## One call -/

variable {kind : ResourceKind} {taking : Bool} {loop : WatchLoop} {object version : Json}
variable {items : List Json} {event : WatchEvent} {events : List WatchEvent} {fault : Fault}

theorem asked_of_legible (legible : Legible kind object) :
    asked taking kind object = ((keyOf? kind object).toList, none) := by
  obtain ⟨key?, read, usable⟩ := legible
  cases key? with
  | none => simp [asked, keyOf?, read]
  | some key =>
      obtain ⟨_, usable⟩ := usable key rfl
      simp [asked, keyOf?, read, ObjectKey.refusal?, usable]

theorem keysOf_of_legible (legible : ∀ object ∈ items, Legible kind object) :
    keysOf taking kind items = (items.filterMap (keyOf? kind), none) := by
  induction items with
  | nil => rfl
  | cons object items ih =>
      have others := ih fun other among => legible other (List.mem_cons_of_mem _ among)
      rw [keysOf, asked_of_legible (legible object (List.mem_cons_self ..)), others]
      cases found : keyOf? kind object <;> simp [found]

namespace WatchEvent

theorem WellFormed.asked_eq (wellFormed : event.WellFormed kind) :
    event.asked taking kind = (keysTold kind [event], none) := by
  by_cases bookmark : event.type = .str "BOOKMARK"
  · have isBookmark : event.isBookmark = true := (Json.isText_iff _).2 bookmark
    simp [asked, isBookmark, keysTold, bookmark]
  · have noBookmark : event.isBookmark = false := by
      rw [Bool.eq_false_iff]
      exact mt (Json.isText_iff _).1 bookmark
    rw [asked, noBookmark, asked_of_legible (wellFormed.legible bookmark)]
    cases found : keyOf? kind event.object <;> simp [keysTold, bookmark, found]

theorem WellFormed.position_eq (wellFormed : event.WellFormed kind) (before : Json) :
    event.position before = .ok (event.version?.getD before) := by
  obtain ⟨⟨fields, isObject⟩, metadata, -, -⟩ := wellFormed
  rw [position, version?]
  rw [isObject] at metadata ⊢
  cases found : Fields.get? fields "metadata" with
  | none => simp [Json.fieldOr_obj, Json.dig?, Json.field?, found]; rfl
  | some inner =>
      obtain ⟨fields, rfl⟩ := metadata inner (by simpa [Json.field?] using found)
      simp [Json.fieldOr_obj, Json.dig?, Json.field?, found]; rfl

end WatchEvent

theorem lastVersion_singleton (event : WatchEvent) (before : Json) :
    lastVersion [event] before = event.version?.getD before := by
  cases told : event.version? <;> simp [lastVersion, told]

theorem lastVersion_append (earlier later : List WatchEvent) (before : Json) :
    lastVersion (earlier ++ later) before = lastVersion later (lastVersion earlier before) := by
  simp only [lastVersion, List.filterMap_append, List.getLastD_eq_getLast?, List.getLast?_append]
  cases (later.filterMap WatchEvent.version?).getLast? <;> rfl

theorem keysTold_append (kind : ResourceKind) (earlier later : List WatchEvent) :
    keysTold kind (earlier ++ later) = keysTold kind earlier ++ keysTold kind later := by
  simp only [keysTold, List.filter_append, List.filterMap_append]

theorem isGone_iff : IsGone fault ↔ fault.isExpired = true := by
  cases fault with
  | api error => simp [IsGone, Fault.isExpired, versionExpired, Json.isNumber]
  | _ => simp [IsGone, Fault.isExpired]

namespace WatchLoop

theorem step_event (taking : Bool) (wellFormed : event.WellFormed kind) (position : Json) :
    step ⟨kind, position, .watching⟩ taking (.event event) =
      some ⟨⟨kind, lastVersion [event] position, .watching⟩, keysTold kind [event], false⟩ := by
  simp only [step, wellFormed.position_eq, wellFormed.asked_eq, lastVersion_singleton]

theorem follow_of_step {input : WatchInput} {turn : WatchTurn} {rest : List WatchInput}
    (steps : loop.step taking input = some turn) :
    loop.follow taking (input :: rest) =
      (turn.keys ++ (turn.loop.follow taking rest).1, (turn.loop.follow taking rest).2) := by
  rw [follow, steps]

theorem follow_events (wellFormed : ∀ event ∈ events, event.WellFormed kind) (position : Json)
    (rest : List WatchInput) :
    follow taking ⟨kind, position, .watching⟩ (events.map .event ++ rest) =
      (keysTold kind events ++
        (follow taking ⟨kind, lastVersion events position, .watching⟩ rest).1,
        (follow taking ⟨kind, lastVersion events position, .watching⟩ rest).2) := by
  -- on the events, at every position, as each of them can move it on
  induction events generalizing position with
  | nil => rfl
  | cons event events ih =>
      have first := step_event taking (wellFormed event (List.mem_cons_self ..)) position
      have others := ih (fun other among => wellFormed other (List.mem_cons_of_mem _ among))
        (lastVersion [event] position)
      rw [List.map_cons, List.cons_append, follow_of_step first, others,
        ← List.singleton_append (l := events), lastVersion_append, keysTold_append,
        List.append_assoc]

theorem follow_list (taking : Bool) (legible : ∀ object ∈ items, Legible kind object)
    (version : Json) :
    (new kind).follow taking (WatchCall.list (.ok (items, version))).inputs =
      (items.filterMap (keyOf? kind), ⟨kind, version, .watching⟩) := by
  have turned : (new kind).step taking (.listed items version) =
      some ⟨⟨kind, version, .watching⟩, items.filterMap (keyOf? kind), true⟩ := by
    simp only [step, new, keysOf_of_legible legible]
  rw [WatchCall.inputs, Listing.input, follow_of_step turned]
  simp [follow, step]

theorem follow_failed_list (taking : Bool) (kind : ResourceKind) (fault : Fault) :
    (new kind).follow taking (WatchCall.list (.error fault)).inputs = ([], new kind) := by
  have turned : (new kind).step taking (.failed fault) =
      some ⟨(new kind).afterFailure fault, [], false⟩ := rfl
  rw [WatchCall.inputs, Listing.input, follow_of_step turned]
  cases expired : fault.isExpired <;> simp [afterFailure, expired, follow, step, new, round]

/-- After a stream a loop watches on, unless its version has been refused as too old. -/
theorem follow_ending (taking : Bool) (kind : ResourceKind) (position : Json) (text : String)
    (stream : WatchStream) :
    ((WatchCall.watch position stream).CallsForList ∧
      follow taking ⟨kind, .str text, .watching⟩ [stream.ending, .rested] = ([], new kind)) ∨
    (¬(WatchCall.watch position stream).CallsForList ∧
      follow taking ⟨kind, .str text, .watching⟩ [stream.ending, .rested] =
        ([], ⟨kind, .str text, .watching⟩)) := by
  cases ends : stream.fault? with
  | none =>
      right
      refine ⟨?_, by simp [WatchStream.ending, ends, follow, step, round]⟩
      intro callsForList
      cases callsForList with
      | watch failed gone => cases ends.symm.trans failed
  | some fault =>
      cases expired : fault.isExpired with
      | true =>
          left
          refine ⟨.watch ends (isGone_iff.2 expired), ?_⟩
          simp [WatchStream.ending, ends, follow, step, afterFailure, expired, new]
      | false =>
          right
          refine ⟨?_, by simp [WatchStream.ending, ends, follow, step, afterFailure, expired, round]⟩
          intro callsForList
          cases callsForList with
          | watch failed gone =>
              cases ends.symm.trans failed
              rw [isGone_iff, expired] at gone
              cases gone

end WatchLoop

theorem listDue_append_iff {calls : List WatchCall} {call : WatchCall} :
    ListDue (calls ++ [call]) ↔ call.CallsForList := by
  constructor
  · intro due
    generalize same : calls ++ [call] = all at due
    cases due with
    | start => simp at same
    | again earlier callsForList =>
        obtain ⟨-, rfl⟩ := List.append_inj' same rfl |>.imp_right List.singleton_inj.1
        exact callsForList
  · exact ListDue.again calls

theorem Resumes.append {calls : List WatchCall} {position : Json} (resumes : Resumes calls position)
    (stream : WatchStream) :
    Resumes (calls ++ [.watch position stream]) (lastVersion stream.events position) := by
  obtain ⟨earlier, items, version, noList⟩ := resumes
  rename_i later
  have told : deliveredBy (later ++ [.watch (lastVersion (deliveredBy later) version) stream]) =
      deliveredBy later ++ stream.events := by
    simp only [deliveredBy, List.flatMap_append, List.flatMap_singleton]
  rw [List.append_assoc, List.cons_append, ← lastVersion_append, ← told]
  refine .since earlier items version fun call among => ?_
  rcases List.mem_append.1 among with among | among
  · exact noList call among
  · cases List.mem_singleton.1 among
    rfl

/-! ## Many calls -/

/-- Where a loop stands after its calls: with a list due it has no position. -/
inductive StandsAfter (kind : ResourceKind) (calls : List WatchCall) : WatchLoop → Prop where
  | listing (due : ListDue calls) : StandsAfter kind calls (.new kind)
  | watching {text : String} (notDue : ¬ListDue calls) (resumes : Resumes calls (.str text)) :
      StandsAfter kind calls ⟨kind, .str text, .watching⟩

variable {script : WatchScript} {calls : List WatchCall}

theorem stands_after_list (calls : List WatchCall) (taking : Bool) {answer : Listing}
    (legible : ∀ items version, answer = .ok (items, version) →
      ∀ object ∈ items, Legible kind object)
    (isText : ∀ items version, answer = .ok (items, version) → ∃ text, version = .str text) :
    ((WatchLoop.new kind).follow taking (WatchCall.list answer).inputs).1 =
        (WatchCall.list answer).keys kind ∧
      StandsAfter kind (calls ++ [.list answer])
        ((WatchLoop.new kind).follow taking (WatchCall.list answer).inputs).2 := by
  cases answer with
  | error fault =>
      rw [WatchLoop.follow_failed_list]
      exact ⟨rfl, .listing (.again calls (.list fault))⟩
  | ok listed =>
      obtain ⟨items, version⟩ := listed
      obtain ⟨text, rfl⟩ := isText items version rfl
      rw [WatchLoop.follow_list taking (legible items _ rfl)]
      refine ⟨rfl, .watching ?_ (.since calls items (.str text) (by simp))⟩
      -- a list that has gone through does not call for another one
      rw [listDue_append_iff]
      rintro ⟨⟩

theorem lastVersion_text (wellFormed : ∀ event ∈ events, event.WellFormed kind) (text : String) :
    ∃ last, lastVersion events (.str text) = .str last := by
  induction events generalizing text with
  | nil => exact ⟨text, rfl⟩
  | cons event events ih =>
      have others := ih fun other among => wellFormed other (List.mem_cons_of_mem _ among)
      rw [← List.singleton_append (l := events), lastVersion_append, lastVersion_singleton]
      cases told : event.version? with
      | none => exact others text
      | some version =>
          obtain ⟨text, rfl⟩ := (wellFormed event (List.mem_cons_self ..)).version version told
          exact others text

theorem stands_after_watch (taking : Bool) {stream : WatchStream} {text : String}
    (wellFormed : ∀ event ∈ stream.events, event.WellFormed kind)
    (resumes : Resumes calls (.str text)) :
    (WatchLoop.follow taking ⟨kind, .str text, .watching⟩
        (WatchCall.watch (.str text) stream).inputs).1 =
        (WatchCall.watch (.str text) stream).keys kind ∧
      StandsAfter kind (calls ++ [.watch (.str text) stream])
        (WatchLoop.follow taking ⟨kind, .str text, .watching⟩
          (WatchCall.watch (.str text) stream).inputs).2 := by
  obtain ⟨last, isLast⟩ := lastVersion_text wellFormed text
  have resumes := resumes.append stream
  rw [isLast] at resumes
  rw [WatchCall.inputs, WatchLoop.follow_events wellFormed, isLast]
  rcases WatchLoop.follow_ending taking kind (.str text) last stream with
    ⟨due, ends⟩ | ⟨notDue, ends⟩
  · rw [ends, List.append_nil]
    exact ⟨rfl, .listing (.again calls due)⟩
  · rw [ends, List.append_nil]
    exact ⟨rfl, .watching (mt listDue_append_iff.1 notDue) resumes⟩

/-- The next call is a list if one is due, and else a watch from the last version. -/
structure WatchScript.NextCall (script : WatchScript) (calls : List WatchCall)
    (call : WatchCall) : Prop where
  list : ListDue calls → call = .list (script.listing (calls.countP (·.isList)))
  watch : ¬ListDue calls → ∃ position, Resumes calls position ∧
    call = .watch position (script.stream (calls.countP (!·.isList)))

theorem exists_next (wellFormed : script.WellFormed kind) {course : WatchCourse}
    (stands : StandsAfter kind course.calls course.loop) :
    ∃ call, script.NextCall course.calls call ∧
      (script.next course).calls = course.calls ++ [call] ∧
      (script.next course).keys = course.keys ++ call.keys kind ∧
      StandsAfter kind (script.next course).calls (script.next course).loop := by
  obtain ⟨calls, keys, loop⟩ := course
  cases stands with
  | listing due =>
      obtain ⟨asked, stands⟩ := stands_after_list calls (script.taking calls.length)
        (wellFormed.items (calls.countP (·.isList))) (wellFormed.version _)
      refine ⟨_, ⟨fun _ => rfl, fun notDue => absurd due notDue⟩, rfl, ?_, stands⟩
      exact congrArg (keys ++ ·) asked
  | watching notDue resumes =>
      obtain ⟨asked, stands⟩ := stands_after_watch (script.taking calls.length)
        (wellFormed.events (calls.countP (!·.isList))) resumes
      refine ⟨_, ⟨fun due => absurd due notDue, fun _ => ⟨_, resumes, rfl⟩⟩, rfl, ?_, stands⟩
      exact congrArg (keys ++ ·) asked

theorem stands_after_course (wellFormed : script.WellFormed kind) (n : Nat) :
    StandsAfter kind (script.course kind n).calls (script.course kind n).loop ∧
      (script.course kind n).calls.length = n ∧
      (script.course kind n).keys = (script.course kind n).calls.flatMap (·.keys kind) := by
  induction n with
  | zero => exact ⟨.listing .start, rfl, rfl⟩
  | succ n ih =>
      obtain ⟨stands, length, keys⟩ := ih
      obtain ⟨call, -, calls, more, stands⟩ := exists_next wellFormed stands
      refine ⟨stands, ?_, ?_⟩
      · rw [WatchScript.course, calls, List.length_append, length, List.length_singleton]
      · rw [WatchScript.course, calls, more, keys, List.flatMap_append, List.flatMap_singleton]

/-- A loop lists at the start, after a list that failed and after a refusal of its version
as too old, and at no other time; every watch resumes from the last version that has been
told, and the keys that are asked for are those of the items and events, in order. -/
theorem watching_leaves_no_gap (kind : ResourceKind) (script : WatchScript)
    (wellFormed : script.WellFormed kind) (n : Nat) :
    (script.course kind n).calls.length = n ∧
      (∃ call, (script.course kind (n + 1)).calls = (script.course kind n).calls ++ [call] ∧
        script.NextCall (script.course kind n).calls call) ∧
      (script.course kind n).keys = (script.course kind n).calls.flatMap (·.keys kind) := by
  obtain ⟨stands, length, keys⟩ := stands_after_course wellFormed n
  obtain ⟨call, next, calls, -⟩ := exists_next wellFormed stands
  exact ⟨length, ⟨call, calls, next⟩, keys⟩

/-- The first list fails, the second has one item, and a bookmark moves the position on. -/
def sampleScript : WatchScript where
  listing
    | 0 => .error (.api (.general (.int 500) "InternalError" "etcd is down"))
    | _ => .ok ([.obj [("metadata", .obj [("name", .str "web")])]], .str "5")
  stream
    | 0 => ⟨[⟨.str "BOOKMARK",
        .obj [("metadata", .obj [("resourceVersion", .str "9")])]⟩], none⟩
    | _ => ⟨[], some (.api (.general (.int 410) "Expired" "too old"))⟩
  taking _ := true

theorem sampleScript_wellFormed : sampleScript.WellFormed .simpleApp where
  items n items version listed object among := by
    cases n with
    | zero => cases listed
    | succ n =>
        cases listed
        cases List.mem_singleton.1 among
        exact ⟨some (.ofTexts "default" "web"), rfl, by rintro _ ⟨⟩; exact ⟨_, rfl⟩⟩
  version n items version listed := by
    cases n with
    | zero => cases listed
    | succ n => exact ⟨"5", (Prod.mk.inj (Except.ok.inj listed)).2.symm⟩
  events n event among := by
    cases n with
    | zero =>
        cases List.mem_singleton.1 among
        refine ⟨⟨_, rfl⟩, ?_, ?_, fun noBookmark => absurd rfl noBookmark⟩
        · rintro _ ⟨⟩
          exact ⟨_, rfl⟩
        · rintro _ ⟨⟩
          exact ⟨"9", rfl⟩
    | succ n => cases among

/-- What comes after the bookmark is watched from the bookmark on. -/
theorem watching_leaves_no_gap_after_a_bookmark :
    sampleScript.WellFormed .simpleApp ∧
      (sampleScript.course .simpleApp 4).calls =
        [.list (sampleScript.listing 0), .list (sampleScript.listing 1),
          .watch (.str "5") (sampleScript.stream 0), .watch (.str "9") (sampleScript.stream 1)] ∧
      (∃ call, (sampleScript.course .simpleApp 4).calls =
          (sampleScript.course .simpleApp 3).calls ++ [call] ∧
        sampleScript.NextCall (sampleScript.course .simpleApp 3).calls call) ∧
      (sampleScript.course .simpleApp 3).keys =
        (sampleScript.course .simpleApp 3).calls.flatMap (·.keys .simpleApp) := by
  obtain ⟨-, next, keys⟩ :=
    watching_leaves_no_gap .simpleApp sampleScript sampleScript_wellFormed 3
  exact ⟨sampleScript_wellFormed, rfl, next, keys⟩

end AppOperator
