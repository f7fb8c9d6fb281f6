import AppOperator.Proofs.Json.Editing
import AppOperator.Proofs.Yaml.Records
import AppOperator.Yaml.Meaning

/-!
# Building documents

In a document that was read no two keys of a record are the same key (`keysDiffer_of_ofText`):
a record comes up empty, and an entry whose key it has replaces the one that was there.
-/

set_option autoImplicit false

namespace AppOperator.Yaml

theorem Entries.keysDiffer_ofPairs (pairs : List (Value × Value)) :
    (Entries.ofPairs pairs).KeysDiffer := by
  have fold : ∀ before : Entries, before.KeysDiffer →
      (pairs.foldl (fun entries pair => entries.set pair.1 pair.2) before).KeysDiffer := by
    induction pairs with
    | nil => exact fun before differ => differ
    | cons pair rest ih => exact fun before differ => ih _ (differ.set pair.1 pair.2)
  exact fold [] List.Pairwise.nil

/-- If the part is a record, no two of its keys are the same key. -/
def Part.KeysDiffer : Part → Prop
  | .record entries => entries.KeysDiffer
  | _ => True

namespace Building

/-- The records that have come up are such. -/
def KeysDiffer (s : Building) : Prop :=
  ∀ (number : Nat) (part : Part), s.parts[number]? = some (some part) → part.KeysDiffer

/-- A computation yields only results of a kind, and leaves the records in order. -/
def Yields {α : Type} (P : α → Prop) (m : BuildM α) : Prop :=
  ∀ s a after, m.run s = .ok (a, after) → s.KeysDiffer → P a ∧ after.KeysDiffer

abbrev Keeps {α : Type} (m : BuildM α) : Prop :=
  Yields (fun _ => True) m

section Computations

variable {α β : Type} {P : α → Prop} {Q : β → Prop} {m : BuildM α} {f : α → BuildM β}

theorem Yields.bind (first : Yields P m) (next : ∀ a, P a → Yields Q (f a)) :
    Yields Q (m >>= f) := by
  intro s b after runs differ
  rw [StateT.run_bind] at runs
  obtain ⟨⟨a, middle⟩, runsFirst, runsNext⟩ := bind_eq_ok_iff.mp runs
  obtain ⟨holds, kept⟩ := first s a middle runsFirst differ
  exact next a holds middle b after runsNext kept

theorem Keeps.bind (first : Keeps m) (next : ∀ a, Yields Q (f a)) : Yields Q (m >>= f) :=
  Yields.bind first fun a _ => next a

theorem yields_pure {a : α} (holds : P a) : Yields P (pure a) := by
  intro s b after runs differ
  cases runs
  exact ⟨holds, differ⟩

theorem keeps_pure (a : α) : Keeps (pure a) :=
  yields_pure trivial

theorem yields_throw (fault : Fault) : Yields P (throw fault) := by
  intro s a after runs
  cases runs

theorem yields_fail : Yields P fail :=
  yields_throw _

theorem keeps_get : Keeps get := by
  intro s a after runs differ
  cases runs
  exact ⟨trivial, differ⟩

theorem keeps_lift (result : Except Fault α) : Keeps (liftM result) := by
  intro s a after runs differ
  cases result with
  | error fault => cases runs
  | ok own =>
      cases runs
      exact ⟨trivial, differ⟩

theorem keeps_modify {change : Building → Building}
    (keeps : ∀ s, s.KeysDiffer → (change s).KeysDiffer) : Keeps (modify change) := by
  intro s a after runs differ
  cases runs
  exact ⟨trivial, keeps s differ⟩

theorem keeps_discard (keeps : Keeps m) : Keeps (discard m) := by
  change Keeps (m >>= fun _ => pure ())
  exact keeps.bind fun _ => keeps_pure ()

theorem keeps_mapM (xs : List α) (each : ∀ x, Keeps (f x)) : Keeps (xs.mapM f) := by
  induction xs with
  | nil => exact keeps_pure []
  | cons x rest ih =>
      rw [List.mapM_cons]
      exact (each x).bind fun _ => Keeps.bind ih fun _ => keeps_pure _

theorem keeps_forIn (xs : List α) {b : β} {step : α → β → BuildM (ForInStep β)}
    (each : ∀ x b, Keeps (step x b)) : Keeps (forIn xs b step) := by
  induction xs generalizing b with
  | nil => exact keeps_pure b
  | cons x rest ih =>
      rw [List.forIn_cons]
      refine (each x b).bind fun next => ?_
      cases next with
      | done b => exact keeps_pure b
      | yield b => exact ih

end Computations

/-! ## The state -/

theorem KeysDiffer.set {s : Building} (differ : s.KeysDiffer) (number : Nat) {part : Part}
    (own : part.KeysDiffer) (pending : List Nat) :
    KeysDiffer { s with parts := s.parts.set! number (some part), pending := pending } := by
  intro at_ other has
  simp only [Array.set!_eq_setIfInBounds, Array.getElem?_setIfInBounds] at has
  split at has
  · split at has
    · cases has
      exact own
    · cases has
  · exact differ at_ other has

theorem keysDiffer_start (nodes : Array Node) (size : Nat) :
    KeysDiffer ⟨nodes, Array.replicate size none, []⟩ := by
  intro number part has
  rw [Array.getElem?_replicate] at has
  split at has <;> cases has

theorem keeps_nodeAt (number : Nat) : Keeps (nodeAt number) :=
  keeps_get.bind fun _ => keeps_pure _

theorem keeps_entriesAt (number : Nat) : Keeps (entriesAt number) := by
  refine (keeps_nodeAt number).bind fun node => ?_
  split <;> exact keeps_pure _

theorem keeps_setEntriesAt (number : Nat) (entries : List (Nat × Nat)) :
    Keeps (setEntriesAt number entries) :=
  keeps_modify fun _ differ => differ

theorem keeps_setTagAt (number : Nat) (tag : Tag) : Keeps (setTagAt number tag) :=
  keeps_modify fun _ differ => differ

theorem keeps_textAt (fuel number : Nat) : Keeps (textAt fuel number) := by
  induction fuel generalizing number with
  | zero => exact yields_throw _
  | succ fuel ih =>
      refine (keeps_nodeAt number).bind fun node => ?_
      split
      · exact keeps_pure _
      · exact yields_fail
      · refine keeps_get.bind fun s => ?_
        dsimp only
        split
        · exact ih _
        · exact yields_fail

theorem keeps_text (number : Nat) : Keeps (text number) :=
  keeps_get.bind fun _ => keeps_textAt _ number

theorem keeps_partAt (number : Nat) {empty : Part} (own : empty.KeysDiffer) :
    Keeps (partAt number empty) := by
  intro s a after runs differ
  by_cases new : ((s.parts[number]?).getD none).isNone = true
  · have runsNew : (partAt number empty).run s = .ok (.part number,
        { s with parts := s.parts.set! number (some empty), pending := number :: s.pending }) := by
      simp only [partAt, StateT.run_bind, StateT.run_get, pure_bind, new, if_true]
      rfl
    rw [runsNew] at runs
    cases runs
    exact ⟨trivial, differ.set number own _⟩
  · have runsOld : (partAt number empty).run s = .ok (.part number, s) := by
      simp only [partAt, StateT.run_bind, StateT.run_get, pure_bind, new]
      rfl
    rw [runsOld] at runs
    cases runs
    exact ⟨trivial, differ⟩

theorem keeps_value (number : Nat) : Keeps (value number) := by
  have parsed {α : Type} (read : String → Except Fault α) (make : α → Value) :
      Keeps (do return make (← read (← text number))) :=
    (keeps_text number).bind fun s => (keeps_lift (read s)).bind fun _ => keeps_pure _
  refine (keeps_nodeAt number).bind fun node => ?_
  split
  case h_1 => exact (keeps_discard (keeps_text number)).bind fun _ => keeps_pure _
  case h_2 => exact parsed truthValue .truth
  case h_3 => exact parsed wholeValue .whole
  case h_4 => exact parsed numberValue .number
  case h_5 => exact (keeps_text number).bind fun _ => keeps_pure _
  case h_6 => exact parsed octetsValue .octets
  case h_7 =>
    refine (keeps_text number).bind fun written => (keeps_nodeAt number).bind fun node => ?_
    split
    · exact (keeps_lift (instantValue written)).bind fun _ => keeps_pure _
    · exact yields_throw _
  case h_8 => exact keeps_partAt number trivial
  case h_9 => exact keeps_partAt number List.Pairwise.nil
  case h_10 | h_11 | h_12 => exact keeps_partAt number trivial
  case h_13 | h_14 | h_15 => exact yields_fail

-- A merge is taken away before what it merges is looked at, and any other entry is passed: the
-- induction is on the merges that are left, and inside on the steps.
theorem keeps_mergeFrom (merges steps number index : Nat) (merged : List (Nat × Nat)) :
    Keeps (mergeFrom merges steps number index merged) := by
  induction merges using Nat.strongRecOn generalizing steps number index merged with
  | ind merges fewer =>
  induction steps using Nat.strongRecOn generalizing number index merged with
  | ind steps shorter =>
  rw [mergeFrom]
  refine (keeps_entriesAt number).bind fun entries => ?_
  split
  case h_1 => exact keeps_setEntriesAt _ _
  case h_2 key source _ =>
    refine (keeps_nodeAt key).bind fun node => ?_
    split
    case h_1 =>
      have again := fewer _ (Nat.lt_succ_self _)
      have rest (found : List (Nat × Nat)) := (keeps_entriesAt number).bind fun entries =>
        again (entries.length + 1) number index (merged ++ found)
      refine (keeps_setEntriesAt _ _).bind fun _ => ?_
      extract_lets mergeOf
      have keeps_mergeOf (other : Nat) : Keeps (mergeOf other) := by
        refine (keeps_nodeAt other).bind fun node => ?_
        split
        · exact (again _ _ _ _).bind fun _ => keeps_entriesAt other
        · exact yields_fail
      refine (keeps_nodeAt source).bind fun node => ?_
      split
      · exact (keeps_mapM _ keeps_mergeOf).bind fun _ => (keeps_pure _).bind rest
      · exact (keeps_mergeOf source).bind rest
    case h_2 =>
      have rest := shorter _ (Nat.lt_succ_self _) number (index + 1) merged
      dsimp only
      split
      · exact (keeps_setTagAt key .text).bind fun _ => rest
      · exact rest
    case h_3 => exact yields_throw _

theorem keeps_mergedEntries (number : Nat) : Keeps (mergedEntries number) := by
  refine (keeps_nodeAt number).bind fun node => ?_
  split
  · exact keeps_get.bind fun _ => (keeps_mergeFrom _ _ _ _ _).bind fun _ => keeps_entriesAt number
  · exact yields_fail

/-! ## Parts -/

theorem keeps_entry (key source : Nat) : Keeps (entry key source) := by
  refine (keeps_value key).bind fun key => ?_
  dsimp only
  split
  · exact Keeps.bind yields_fail fun _ => (keeps_value source).bind fun _ => keeps_pure _
  · exact (keeps_value source).bind fun _ => keeps_pure _

theorem yields_entries (number : Nat) : Yields Entries.KeysDiffer (entries number) :=
  (keeps_mergedEntries number).bind fun found =>
    (keeps_mapM found fun pair => keeps_entry pair.1 pair.2).bind fun pairs =>
      yields_pure (Entries.keysDiffer_ofPairs pairs)

theorem keeps_items (number : Nat) : Keeps (items number) := by
  refine (keeps_nodeAt number).bind fun node => ?_
  split
  · exact keeps_pure _
  · exact yields_fail

theorem keeps_pair (number : Nat) : Keeps (pair number) := by
  refine (keeps_nodeAt number).bind fun node => ?_
  split
  · exact (keeps_value _).bind fun _ => (keeps_value _).bind fun _ => keeps_pure _
  · exact yields_fail

theorem yields_filled (number : Nat) : Yields Part.KeysDiffer (filled number) := by
  refine (keeps_nodeAt number).bind fun node => ?_
  split
  · exact (yields_entries number).bind fun _ differ => yields_pure differ
  · exact (yields_entries number).bind fun _ _ => yields_pure trivial
  · exact (keeps_items number).bind fun _ => (keeps_mapM _ keeps_pair).bind fun _ => yields_pure trivial
  · exact (keeps_items number).bind fun _ => (keeps_mapM _ keeps_pair).bind fun _ => yields_pure trivial
  · exact (keeps_items number).bind fun _ => (keeps_mapM _ keeps_value).bind fun _ => yields_pure trivial

theorem keeps_fill (fuel : Nat) : Keeps (fill fuel) := by
  induction fuel with
  | zero => exact keeps_pure ()
  | succ fuel ih =>
      have emptied : Keeps (modify fun s => { s with pending := [] }) :=
        keeps_modify fun _ differ => differ
      refine keeps_get.bind fun s => emptied.bind fun _ => ?_
      refine (keeps_forIn _ fun number _ => ?_).bind fun _ => keeps_get.bind fun _ => ?_
      · refine (yields_filled number).bind fun part own => ?_
        exact (keeps_modify fun s differ => differ.set number own s.pending).bind fun _ => keeps_pure _
      · split
        · exact ih
        · exact keeps_pure ()

end Building

open Building in
/-- In a document that was read no two keys of a record are the same key. -/
theorem Document.keysDiffer_of_ofText {text : String} {d : Document}
    (reads : Document.ofText text = .ok d) : d.KeysDiffer := by
  obtain ⟨graph, -, builds⟩ := bind_eq_ok_iff.mp reads
  unfold ofGraph at builds
  split at builds
  · cases builds
    intro record entries isRecord
    obtain ⟨number, rfl, has⟩ := entries?_eq_some_iff.mp isRecord
    cases has
  · next root _ =>
      obtain ⟨⟨made, built⟩, runs, same⟩ := bind_eq_ok_iff.mp builds
      cases same
      have build : Keeps (do
          let value ← value root
          fill (graph.nodes.size + 1)
          return value) :=
        (keeps_value root).bind fun _ => (keeps_fill _).bind fun _ => keeps_pure _
      have differ : built.KeysDiffer := (build _ _ _ runs (keysDiffer_start _ _)).2
      intro record entries isRecord
      obtain ⟨number, rfl, has⟩ := entries?_eq_some_iff.mp isRecord
      rw [Array.getElem?_map, Option.map_eq_some_iff] at has
      obtain ⟨part, has, isRecord⟩ := has
      cases part with
      | none => cases isRecord
      | some part =>
          cases isRecord
          exact differ number _ has

end AppOperator.Yaml
