import AppOperator.Watch.Origin

/-!
# The list-then-watch loop

A loop keeps up with one kind of objects.  It lists them, asks for a pass for
each, and then watches from the version of the list on; every event moves its
position to the version of the event's object.  A stream that ends is opened
again at the position.  A position that has expired is given up and the kind is
listed anew; after any other failure the loop pauses and then goes on from
where it was.

`WatchLoop.step` says what a loop does with each thing that can happen to it.
-/

set_option autoImplicit false

namespace AppOperator

/-- A change that a watch reports: its type, and the object after it. -/
structure WatchEvent where
  type : Json
  object : Json

/-- What a loop is about to do or waits for. -/
inductive WatchStage where
  | listing
  | watching
  | pausing
  | ended
deriving DecidableEq, Repr

/-- A loop over one kind; without a position it has to list. -/
structure WatchLoop where
  kind : ResourceKind
  position : Json
  stage : WatchStage

/-- What can happen to a loop. -/
inductive WatchInput where
  /-- the list is answered with items and a version -/
  | listed (items : List Json) (version : Json)
  /-- the stream delivers an event -/
  | event (event : WatchEvent)
  /-- the stream ends -/
  | closed
  /-- the list or the stream fails -/
  | failed (fault : Fault)
  /-- the pause is over -/
  | rested

/-- What comes of a turn: the loop after it, the keys asked for, in order, and
whether a list has been gone through.  The last of the keys may be one that was
refused. -/
structure WatchTurn where
  loop : WatchLoop
  keys : List ObjectKey
  listed : Bool

/-- Why asking for a pass over a key is refused: a queue that still takes keys in
refuses those that it cannot hold. -/
def ObjectKey.refusal? (key : ObjectKey) (taking : Bool) : Option Fault :=
  match key.usable with
  | .error fault => if taking then some fault else none
  | .ok _ => none

/-- The keys that an object asks for, at most one, and why that one was refused or
none could be read. -/
def asked (taking : Bool) (kind : ResourceKind) (object : Json) : List ObjectKey × Option Fault :=
  match keyFor kind object with
  | .error fault => ([], some fault)
  | .ok none => ([], none)
  | .ok (some key) => ([key], key.refusal? taking)

/-- The keys of listed objects up to the first one that has a fault, and the fault. -/
def keysOf (taking : Bool) (kind : ResourceKind) : List Json → List ObjectKey × Option Fault
  | [] => ([], none)
  | object :: rest =>
      match asked taking kind object with
      | (keys, some fault) => (keys, some fault)
      | (keys, none) =>
          let (later, fault) := keysOf taking kind rest
          (keys ++ later, fault)

namespace WatchEvent

/-- The event only tells a version. -/
def isBookmark (e : WatchEvent) : Bool :=
  e.type.isText "BOOKMARK"

/-- The keys that the event asks for, at most one, and the fault that comes of it. -/
def asked (e : WatchEvent) (taking : Bool) (kind : ResourceKind) : List ObjectKey × Option Fault :=
  if e.isBookmark then ([], none) else AppOperator.asked taking kind e.object

/-- The position after the event: the version of its object, if it states one. -/
def position (e : WatchEvent) (before : Json) : Except Fault Json := do
  (← e.object.fieldOr "metadata" (.obj [])).fieldOr "resourceVersion" before

end WatchEvent

def versionExpired : Json := .int 410

/-- The fault says that the position has expired. -/
def Fault.isExpired : Fault → Bool
  | .api e => e.status.alike versionExpired
  | _ => false

namespace WatchLoop

def new (kind : ResourceKind) : WatchLoop := ⟨kind, .null, .listing⟩

/-- The start of a round: a list without a position, a watch with one. -/
def round (l : WatchLoop) : WatchLoop :=
  { l with stage := if l.position = .null then .listing else .watching }

def afterFailure (l : WatchLoop) (fault : Fault) : WatchLoop :=
  if fault.isExpired then { l with position := .null, stage := .listing }
  else { l with stage := .pausing }

/-- One turn of a loop; there is none for what cannot happen at its stage.
`taking` says whether the queue takes keys in. -/
def step (l : WatchLoop) (taking : Bool) (input : WatchInput) : Option WatchTurn :=
  match l.stage, input with
  | .listing, .listed items version =>
      match keysOf taking l.kind items with
      | (keys, some fault) => some ⟨l.afterFailure fault, keys, false⟩
      | (keys, none) => some ⟨{ l with position := version, stage := .watching }, keys, true⟩
  | .listing, .failed fault => some ⟨l.afterFailure fault, [], false⟩
  | .watching, .event event =>
      match event.position l.position with
      | .error fault => some ⟨l.afterFailure fault, [], false⟩
      | .ok position =>
          let l := { l with position := position }
          match event.asked taking l.kind with
          | (keys, some fault) => some ⟨l.afterFailure fault, keys, false⟩
          | (keys, none) => some ⟨l, keys, false⟩
  | .watching, .closed => some ⟨l.round, [], false⟩
  | .watching, .failed fault => some ⟨l.afterFailure fault, [], false⟩
  | .pausing, .rested => some ⟨l.round, [], false⟩
  | _, _ => none

end WatchLoop

end AppOperator
