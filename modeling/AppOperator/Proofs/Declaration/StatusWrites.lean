import AppOperator.Proofs.Declaration.Rendering
import AppOperator.Proofs.Json.Places
import AppOperator.Proofs.Json.Sharing

/-!
# Status writes

The object of a status write is the object that was read with another ready count, and it
reads as the declaration with that count.  In memory the object and its status are copied
before anything is written, so whoever else holds a part of them still sees what was there.
-/

set_option autoImplicit false

namespace AppOperator

/-! ## Inside of a section -/

namespace Json

variable {x value : Json} {name inner : String} {fields own : Fields}

theorem inside?_of_not_holds (empty : x.holds = false) (step : PlaceStep) :
    x.inside? step = none := by
  cases x with
  | obj fields =>
      cases fields with
      | nil => exact inside?_emptyRecord step
      | cons field rest => cases empty
  | arr items =>
      cases items with
      | nil => cases step <;> simp [inside?, field?]
      | cons item rest => cases empty
  | _ => cases step <;> rfl

/-- The record that stands for a section has the same inside. -/
theorem at?_of_orElse (isOwn : x.orElse (.obj []) = .obj own) {place : Place}
    (deeper : place ≠ []) : (obj own).at? place = x.at? place := by
  unfold orElse at isOwn
  split at isOwn
  · rw [isOwn]
  · next empty =>
      cases isOwn
      cases place with
      | nil => exact absurd rfl deeper
      | cons step rest =>
          rw [at?, at?, inside?_emptyRecord, inside?_of_not_holds (by simpa using empty)]

/-- Writing to one field of a section, which counts as an empty record if there is nothing in it,
leaves all places alone that are aside from it. -/
theorem at?_set_inside (isOwn : ((Fields.get? fields name).getD .null).orElse (.obj []) = .obj own)
    {place : Place} (isAside : place.Aside [[.field name, .field inner]]) :
    (obj (Fields.set fields name (.obj (Fields.set own inner value)))).at? place =
      (obj fields).at? place := by
  obtain ⟨notInside, notAround⟩ := isAside _ (List.mem_singleton_self _)
  cases place with
  | nil => exact absurd List.nil_prefix notAround
  | cons step rest =>
      by_cases same : step = .field name
      · subst same
        rw [List.prefix_cons_inj] at notInside notAround
        have restAside : Place.Aside [[.field inner]] rest := by
          intro other among
          rw [List.mem_singleton] at among
          subst among
          exact ⟨notInside, notAround⟩
        have deeper : rest ≠ [] := by
          rintro rfl
          exact notAround List.nil_prefix
        have unchanged : (obj (Fields.set own inner value)).at? rest = (obj own).at? rest :=
          (EditedWithin.of_set rfl (.whole _ _)).aside rest restAside
        have isInside : (obj (Fields.set fields name (.obj (Fields.set own inner value)))).inside?
            (.field name) = some (.obj (Fields.set own inner value)) :=
          Fields.get?_set_self fields name _
        rw [at?_cons_of_inside isInside, unchanged, at?_of_orElse isOwn deeper]
        cases found : Fields.get? fields name with
        | some inside =>
            have leads : (obj fields).inside? (.field name) = some inside := found
            rw [at?_cons_of_inside leads, Option.getD_some]
        | none =>
            have leads : (obj fields).inside? (.field name) = none := found
            rw [at?, leads, Option.bind_none, Option.getD_none]
            cases rest with
            | nil => exact absurd rfl deeper
            | cons next rest => rw [at?, inside?_of_not_holds rfl, Option.bind_none]
      · cases step with
        | item index => rfl
        | field other =>
            have different : other ≠ name := by
              rintro rfl
              exact same rfl
            simp only [at?, inside?, field?, Fields.get?_set_of_ne fields _ different]

end Json

/-! ## In memory -/

namespace Memory

variable {m more : Memory} {slots : Slots} {fields own : Fields} {raw : Nat} {count : Int}

/-- A new record for a section: with the slots of the one that is there, or with none. -/
def copySection (m : Memory) : Option Slot → Option (Nat × Memory)
  | some (.at address) =>
      match m[address]? with
      | some (.record slots) => some (m.length, m ++ [.record slots])
      | some (.list []) => some (m.length, m ++ [.record []])
      | _ => none
  | some (.plain x) => if x.holds then none else some (m.length, m ++ [.record []])
  | none => some (m.length, m ++ [.record []])

/-- A status write: the object and its status are copied, and the count is written. -/
def markReady (m : Memory) (raw : Nat) (count : Int) : Option (Nat × Memory) := do
  let (object, m) ← m.copy raw
  let (status, m) ← m.copySection (m.slot? object "status")
  let m := m.write status "readyReplicas" (.plain (.int count))
  return (object, m.write object "status" (.at status))

theorem showsFields_nil : m.ShowsFields [] [] := by
  simp only [ShowsFields]

/-- What is copied for a section shows the record that the section is read as. -/
theorem copySection_shows (shows : m.ShowsFields fields slots) (grown : m <+: more) (name : String)
    (isOwn : ((Fields.get? fields name).getD .null).orElse (.obj []) = .obj own) :
    ∃ copied, more.copySection (Slots.get? slots name) =
      some (more.length, more ++ [.record copied]) ∧ m.ShowsFields own copied := by
  obtain ⟨absent, noSlot⟩ | ⟨x, slot, found, isSlot, seen⟩ := shows.get? name
  · rw [absent] at isOwn
    cases isOwn
    exact ⟨[], by rw [noSlot, copySection], showsFields_nil⟩
  · rw [found, Option.getD_some] at isOwn
    rw [isSlot]
    unfold Json.orElse at isOwn
    split at isOwn
    · subst isOwn
      simp only [Shows] at seen
      obtain ⟨address, copied, rfl, stored, inside⟩ := seen
      exact ⟨copied, by simp only [copySection, stored_of_prefix grown stored], inside⟩
    · next empty =>
        cases isOwn
        refine ⟨[], ?_, showsFields_nil⟩
        -- an empty section has slots only if it is a record or a list
        cases x with
        | obj fields =>
            cases fields with
            | cons field rest => exact absurd rfl empty
            | nil =>
                simp only [Shows, ShowsFields] at seen
                obtain ⟨address, _, rfl, stored, rfl⟩ := seen
                simp only [copySection, stored_of_prefix grown stored]
        | arr items =>
            cases items with
            | cons item rest => exact absurd rfl empty
            | nil =>
                simp only [Shows, ShowsItems] at seen
                obtain ⟨address, _, rfl, stored, rfl⟩ := seen
                simp only [copySection, stored_of_prefix grown stored]
        | _ =>
            simp only [Shows] at seen
            subst seen
            simp only [copySection, empty, Bool.false_eq_true, if_false]

/-- A status write adds two records to a memory: the object and the status. -/
theorem markReady_eq (stored : m[raw]? = some (.record slots)) {copied : Slots}
    (copies : (m ++ [Cell.record slots]).copySection (Slots.get? slots "status") =
      some (m.length + 1, m ++ [.record slots, .record copied])) :
    m.markReady raw count = some (m.length, m ++
      [.record (Slots.set slots "status" (.at (m.length + 1))),
        .record (Slots.set copied "readyReplicas" (.plain (.int count)))]) := by
  have isSlot : (m ++ [Cell.record slots]).slot? m.length "status" = Slots.get? slots "status" := by
    simp [slot?]
  have counted : (m ++ [Cell.record slots, .record copied]).write (m.length + 1) "readyReplicas"
      (.plain (.int count)) =
        m ++ [.record slots, .record (Slots.set copied "readyReplicas" (.plain (.int count)))] := by
    simp [write]
  have linked : ∀ status, (m ++ [Cell.record slots, status]).write m.length "status"
      (.at (m.length + 1)) =
        m ++ [.record (Slots.set slots "status" (.at (m.length + 1))), status] := by
    intro status
    simp [write]
  simp only [markReady, copy, stored, Option.bind_eq_bind, Option.bind_some, isSlot, copies,
    counted, linked, pure]

/-- Where an object is shown that is read as a declaration, a status write leaves all that is
there and shows the object with another ready count at a new address. -/
theorem exists_markReady (isObject : m.Shows (.obj fields) (.at raw))
    (isOwn : ((Fields.get? fields "status").getD .null).orElse (.obj []) = .obj own) (count : Int) :
    ∃ new more, m.markReady raw count = some (new, more) ∧ m <+: more ∧
      more.Shows (.obj (Fields.set fields "status"
        (.obj (Fields.set own "readyReplicas" (.int count))))) (.at new) := by
  simp only [Shows] at isObject
  obtain ⟨address, slots, same, stored, inside⟩ := isObject
  cases same
  obtain ⟨copied, copies, copiedInside⟩ := copySection_shows inside
    (List.prefix_append m [Cell.record slots]) "status" isOwn
  rw [List.length_append, List.length_singleton, List.append_assoc] at copies
  have grown : m <+: m ++ [Cell.record (Slots.set slots "status" (.at (m.length + 1))),
      .record (Slots.set copied "readyReplicas" (.plain (.int count)))] := List.prefix_append _ _
  have status : ShowsFields _ (Fields.set own "readyReplicas" (.int count))
      (Slots.set copied "readyReplicas" (.plain (.int count))) :=
    (copiedInside.mono grown).set "readyReplicas" (by simp only [Shows])
  refine ⟨_, _, markReady_eq stored copies, grown, ?_⟩
  simp only [Shows]
  refine ⟨_, Slots.set slots "status" (.at (m.length + 1)), rfl, by simp,
    (inside.mono grown).set "status" ?_⟩
  simp only [Shows]
  exact ⟨_, Slots.set copied "readyReplicas" (.plain (.int count)), rfl, by simp, status⟩

end Memory

namespace Declaration

variable {object : Json} {d : Declaration}

def readyPlace : Json.Place :=
  [.field "status", .field "readyReplicas"]

/-- What a status write leaves behind reads as the declaration with the count. -/
theorem Reads.withCount {fields metadata own : Fields} (reads : Reads fields metadata d)
    (status : Status.ofJson (.obj own) = .ok d.status) (count : Int) :
    Reads (Fields.set fields "status" (.obj (Fields.set own "readyReplicas" (.int count)))) metadata
      { d with
        status := ⟨count, d.status.serviceStatus⟩
        raw := Fields.set fields "status" (.obj (Fields.set own "readyReplicas" (.int count))) } where
  name := reads.name
  namespaceName := reads.namespaceName
  uid := reads.uid
  resourceVersion := reads.resourceVersion
  spec := by
    rw [Fields.get?_set_of_ne _ _ (by decide)]
    exact reads.spec
  status := by
    rw [Fields.get?_set_self, Option.getD_some, Json.orElse_set]
    exact Status.ofJson_set_readyReplicas status count
  raw := rfl

/-- A status write changes nothing but the ready count.  The object that is written is the one
that was read, with the count in its status, which is created if there is none or nothing in it;
all places aside from the count lead to what was there.  It reads as the declaration with that
count.  In memory nothing is overwritten: the object is still seen where it was, and the written
one is seen at a new address. -/
theorem status_write_touches_only_the_count (parses : ofResource object = .ok d) (count : Int) :
    ∃ fields own, object = .obj fields ∧ Json.obj d.raw = object ∧
      ((Fields.get? fields "status").getD .null).orElse (.obj []) = .obj own ∧
      ∃ written, d.withReadyReplicas (.int count) = .ok written ∧
        written = .obj
          (Fields.set fields "status" (.obj (Fields.set own "readyReplicas" (.int count)))) ∧
        written.at? readyPlace = some (.int count) ∧
        (∀ place, Json.Place.Aside [readyPlace] place → written.at? place = object.at? place) ∧
        (∃ raw, ofResource written = .ok
          { d with status := { d.status with readyReplicas := count }, raw := raw }) ∧
        ∀ (memory : Memory) (address : Nat), memory.Shows object (.at address) →
          ∃ new more, memory.markReady address count = some (new, more) ∧ memory <+: more ∧
            more.Shows object (.at address) ∧ more.Shows written (.at new) := by
  obtain ⟨fields, metadata, rfl, has, reads⟩ := exists_reads parses
  obtain ⟨own, isOwn, status⟩ := reads.statusFields
  have marks := reads.withReadyReplicas_of_own has isOwn (.int count)
  refine ⟨fields, own, rfl, by rw [reads.raw], isOwn, _, marks, rfl, ?count, ?aside, ?reads,
    ?memory⟩
  case count =>
    have inStatus := Fields.get?_set_self fields "status"
      (.obj (Fields.set own "readyReplicas" (.int count)))
    have inside := Fields.get?_set_self own "readyReplicas" (.int count)
    simp only [readyPlace, Json.at?, Json.inside?, Json.field?, inStatus, inside, Option.bind_some]
  case aside =>
    intro place isAside
    exact Json.at?_set_inside isOwn isAside
  case reads =>
    have kept : Fields.get? (Fields.set fields "status"
        (.obj (Fields.set own "readyReplicas" (.int count)))) "metadata" = some (.obj metadata) := by
      rw [Fields.get?_set_of_ne _ _ (by decide), has]
    exact ⟨_, (ofResource_eq_ok_iff kept).mpr (reads.withCount status count)⟩
  case memory =>
    intro memory address shows
    obtain ⟨new, more, marked, grown, seen⟩ := Memory.exists_markReady shows isOwn count
    exact ⟨new, more, marked, grown, shows.mono grown, seen⟩

/-- A declaration whose status counts under its own name and is also held as the last one seen. -/
def watchedFields : Fields :=
  [("metadata", .obj [("name", .str "web"), ("labels", .obj [("team", .str "a")])]),
    ("spec", .obj [("image", .str "nginx"), ("containerPort", .int 8080), ("extra", .arr [.null])]),
    ("status", .obj [("ready_replicas", .str "2"), ("serviceStatus", .str "Up"),
      ("seen", .bool true)]),
    ("lastSeen", .obj [("ready_replicas", .str "2"), ("serviceStatus", .str "Up"),
      ("seen", .bool true)])]

/-- The same status stands in two fields of the declaration at address 5. -/
def watchedMemory : Memory :=
  [.record [("team", .plain (.str "a"))],
    .record [("name", .plain (.str "web")), ("labels", .at 0)],
    .list [.plain .null],
    .record [("image", .plain (.str "nginx")), ("containerPort", .plain (.int 8080)),
      ("extra", .at 2)],
    .record [("ready_replicas", .plain (.str "2")), ("serviceStatus", .plain (.str "Up")),
      ("seen", .plain (.bool true))],
    .record [("metadata", .at 1), ("spec", .at 3), ("status", .at 4), ("lastSeen", .at 4)]]

theorem watchedMemory_shows : watchedMemory.Shows (.obj watchedFields) (.at 5) := by
  simp [watchedMemory, watchedFields, Memory.Shows, Memory.ShowsFields, Memory.ShowsItems]

theorem status_write_touches_only_the_count_of_a_shared_status :
    ∃ d written, ofResource (.obj watchedFields) = .ok d ∧ d.status = ⟨2, some "Up"⟩ ∧
      d.withReadyReplicas (.int 3) = .ok written ∧
      written.at? [.field "status"] = some (.obj [("ready_replicas", .str "2"),
        ("serviceStatus", .str "Up"), ("seen", .bool true), ("readyReplicas", .int 3)]) ∧
      written.at? [.field "lastSeen"] = (Json.obj watchedFields).at? [.field "status"] ∧
      (∃ raw, ofResource written = .ok { d with status := ⟨3, some "Up"⟩, raw := raw }) ∧
      ∃ new more, watchedMemory.markReady 5 3 = some (new, more) ∧
        more.Shows (.obj watchedFields) (.at 5) ∧ more.Shows written (.at new) := by
  have parses : ofResource (.obj watchedFields) = .ok ⟨"web", "default", "", none,
      ⟨"nginx", 1, 8080, 80⟩, ⟨2, some "Up"⟩, watchedFields⟩ := rfl
  obtain ⟨fields, own, same, -, isOwn, written, marks, isWritten, -, aside, reads, inMemory⟩ :=
    status_write_touches_only_the_count parses 3
  cases same
  cases isOwn
  obtain ⟨new, more, marked, -, kept, seen⟩ := inMemory _ 5 watchedMemory_shows
  refine ⟨_, written, parses, rfl, marks, ?_, ?_, reads, new, more, marked, kept, seen⟩
  · rw [isWritten]
    rfl
  · rw [aside _ (by decide)]
    rfl

end Declaration

end AppOperator
