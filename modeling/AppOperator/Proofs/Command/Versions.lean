import AppOperator.Command.Run
import AppOperator.Proofs.Json.Paths
import AppOperator.Proofs.Yaml.Sending

/-!
# Versions that are carried

A document that replaces an object carries the version that the object states, whether the
document was read from one format or from the other.
-/

set_option autoImplicit false

namespace AppOperator

namespace Yaml.Document

variable {d more : Document} {record other value inner : Value} {name key : String}

/-- The value is a record no two keys of which are the same. -/
def IsRecord (d : Document) (value : Value) : Prop :=
  ∃ entries, d.entries? value = some entries ∧ entries.KeysDiffer

/-- Such a record gives a value under a name. -/
def HasEntry (d : Document) (record : Value) (name : String) (value : Value) : Prop :=
  ∃ entries, d.entries? record = some entries ∧ entries.KeysDiffer ∧
    entries.get? (.text name) = some value

namespace Grows

theorem isRecord (grows : Grows d more) (holds : d.IsRecord value) : more.IsRecord value := by
  obtain ⟨entries, isRecord, differ⟩ := holds
  exact ⟨entries, grows.entries? isRecord, differ⟩

theorem hasEntry (grows : Grows d more) (holds : d.HasEntry record name value) :
    more.HasEntry record name value := by
  obtain ⟨entries, isRecord, differ, has⟩ := holds
  exact ⟨entries, grows.entries? isRecord, differ, has⟩

end Grows

theorem IsRecord.setEntry (holds : d.IsRecord record) (isOther : d.IsRecord other) :
    (d.setEntry record key value).IsRecord other := by
  obtain ⟨entries, isRecord, -⟩ := holds
  obtain ⟨own, isOther, differ⟩ := isOther
  obtain ⟨now, isNow, differs, -⟩ := exists_entries?_setEntry isRecord isOther
  exact ⟨now, isNow, differs differ⟩

/-- An entry of any record is kept when another one is written. -/
theorem IsRecord.keepsEntry (holds : d.IsRecord record) (has : d.HasEntry other name inner)
    (different : name ≠ key) : (d.setEntry record key value).HasEntry other name inner := by
  obtain ⟨entries, isRecord, -⟩ := holds
  obtain ⟨own, isOther, differ, has⟩ := has
  obtain ⟨now, isNow, differs, kept⟩ := exists_entries?_setEntry isRecord isOther
  exact ⟨now, isNow, differs differ, (kept name different).trans has⟩

theorem IsRecord.hasEntry_setEntry (holds : d.IsRecord record) :
    (d.setEntry record key value).HasEntry record key value := by
  obtain ⟨entries, isRecord, differ⟩ := holds
  exact ⟨_, entries?_setEntry isRecord, differ.set _ _, Entries.get?_set_self entries key value⟩

/-- Writing an entry of a record leaves alone what was added later. -/
theorem IsRecord.hasBeyond (holds : d.IsRecord record) (grows : Grows d more) :
    HasBeyond d.parts.size more (more.setEntry record key value) := by
  obtain ⟨entries, isRecord, -⟩ := holds
  obtain ⟨number, rfl, has⟩ := entries?_eq_some_iff.mp isRecord
  intro at_ part beyond found
  have inside : number < d.parts.size := (Array.getElem?_eq_some_iff.mp has).1
  rw [getElem?_setEntry (grows.parts _ _ has), if_neg (by omega), found]

/-- A value that is inserted and put into a record of a record arrives there as what it was
inserted for. -/
theorem dig?_of_plain {x y : Json} {first second : String} (onlyFirst : OnlyText first)
    (onlySecond : OnlyText second) (different : first ≠ second) (differ : x.NamesDiffer)
    (isInner : d.HasEntry d.root first inner) (holds : d.IsRecord inner)
    (sent : ((d.insert x).2.setEntry inner second (d.insert x).1).plain = .ok y) :
    y.dig? [first, second] = some x := by
  have grows := grows_insert x d
  have outer : ((d.insert x).2.setEntry inner second (d.insert x).1).HasEntry d.root first inner :=
    (grows.isRecord holds).keepsEntry (grows.hasEntry isInner) different
  have written : ((d.insert x).2.setEntry inner second (d.insert x).1).HasEntry inner second
      (d.insert x).1 := (grows.isRecord holds).hasEntry_setEntry
  obtain ⟨entries, isRecord, keys, has⟩ := outer
  rw [plain, root_setEntry, grows.root] at sent
  obtain ⟨fields, middle, _, _, rfl, found, sentMiddle⟩ :=
    get?_of_plainIn onlyFirst isRecord keys has sent
  obtain ⟨entries, isRecord, keys, has⟩ := written
  obtain ⟨fields, last, _, _, rfl, foundLast, sentLast⟩ :=
    get?_of_plainIn onlySecond isRecord keys has sentMiddle
  rw [plainIn_insert differ (holds.hasBeyond grows) sentLast] at foundLast
  rw [Json.dig?_of_field found, Json.dig?_of_field foundLast]
  rfl

end Yaml.Document

namespace Json.NamesDiffer

variable {x value : Json} {path : List String}

theorem of_dig? (differ : x.NamesDiffer) (leads : x.dig? path = some value) :
    value.NamesDiffer := by
  induction path generalizing x with
  | nil =>
      cases leads
      exact differ
  | cons name rest ih =>
      obtain ⟨fields, inner, rfl, has, leads⟩ := dig?_cons_eq_some_iff.mp leads
      cases differ with
      | obj names inside =>
          obtain ⟨field, found, rfl⟩ := Option.map_eq_some_iff.mp has
          exact ih (inside field (List.mem_of_find?_eq_some found)) leads

end Json.NamesDiffer

namespace Command.Submission

variable {submission : Submission} {existing document : Json} {version : Json}

def versionPath : List String :=
  ["metadata", "resourceVersion"]

theorem versionOf_eq_ok_iff :
    versionOf existing = .ok version ↔ existing.dig? versionPath = some version := by
  simp only [versionOf, bind_eq_ok_iff, Json.entry_eq_ok_iff, versionPath, Json.dig?,
    Option.bind_eq_some_iff, Json.field?_eq_some_iff]
  constructor
  · rintro ⟨metadata, ⟨fields, rfl, has⟩, own, rfl, stated⟩
    exact ⟨_, ⟨fields, rfl, has⟩, _, ⟨own, rfl, stated⟩, rfl⟩
  · rintro ⟨metadata, ⟨fields, rfl, has⟩, _, ⟨own, rfl, stated⟩, same⟩
    cases same
    exact ⟨_, ⟨fields, rfl, has⟩, own, rfl, stated⟩

theorem carries_ofJson {x : Json} (reads : ofJson x = .ok submission)
    (replaces : submission.replacing existing = .ok document) :
    ∃ version, versionOf existing = .ok version ∧ document.dig? versionPath = some version := by
  simp only [ofJson, bind_eq_ok_iff] at reads
  obtain ⟨fields, -, own, -, name, -, same⟩ := reads
  cases same
  obtain ⟨version, isVersion, same⟩ := bind_eq_ok_iff.mp replaces
  cases same
  refine ⟨version, isVersion, ?_⟩
  rw [versionPath, Json.dig?_of_field (Fields.get?_set_self _ _ _),
    Json.dig?_of_field (Fields.get?_set_self _ _ _)]
  rfl

open Yaml (Document Value)

theorem withDefaultEntry_cases {d last : Document} {record value : Value} {key : String}
    {default : Json} (done : withDefaultEntry d record key default = .ok (value, last)) :
    ∃ entries, d.entries? record = some entries ∧
      ((entries.get? (.text key) = some value ∧ last = d) ∨
        (value = (d.insert default).1 ∧
          last = (d.insert default).2.setEntry record key (d.insert default).1)) := by
  obtain ⟨entries, isEntries, rest⟩ := bind_eq_ok_iff.mp done
  have isRecord : d.entries? record = some entries := by
    unfold entriesOf at isEntries
    split at isEntries
    · next own found =>
        cases isEntries
        exact found
    · cases isEntries
  refine ⟨entries, isRecord, ?_⟩
  split at rest
  · next found =>
      cases rest
      exact .inl ⟨found, rfl⟩
  · cases rest
    exact .inr ⟨rfl, rfl⟩

/-- Metadata that are put into a document are a record there. -/
theorem hasEntry_metadata {d last : Document} {metadata : Value} (differ : d.KeysDiffer)
    (puts : withDefaultEntry d d.root "metadata" (.obj []) = .ok (metadata, last)) :
    last.root = d.root ∧ last.HasEntry d.root "metadata" metadata ∧
      ∀ entries, last.entries? metadata = some entries → entries.KeysDiffer := by
  obtain ⟨entries, isRoot, ⟨has, rfl⟩ | ⟨rfl, rfl⟩⟩ := withDefaultEntry_cases puts
  · exact ⟨rfl, ⟨entries, isRoot, differ _ _ isRoot, has⟩, differ metadata⟩
  · have grows := Document.grows_insert (.obj []) d
    have root : (d.insert (.obj [])).2.IsRecord d.root :=
      grows.isRecord ⟨entries, isRoot, differ _ _ isRoot⟩
    have metadata : (d.insert (.obj [])).2.IsRecord (d.insert (.obj [])).1 := by
      refine ⟨[], Document.entries?_eq_some_iff.mpr ⟨d.parts.size, rfl, ?_⟩, List.Pairwise.nil⟩
      exact Array.getElem?_push_size
    refine ⟨Document.root_setEntry.trans grows.root, root.hasEntry_setEntry, ?_⟩
    intro own isOwn
    obtain ⟨now, isNow, nowDiffers⟩ := root.setEntry metadata
    rw [isNow] at isOwn
    cases isOwn
    exact nowDiffers

theorem hasEntry_namespace {d last : Document} {metadata root namespaceName : Value} {default : String}
    (has : d.HasEntry root "metadata" metadata)
    (differ : ∀ entries, d.entries? metadata = some entries → entries.KeysDiffer)
    (puts : withDefaultEntry d metadata "namespace" (.str default) = .ok (namespaceName, last)) :
    last.root = d.root ∧ last.HasEntry root "metadata" metadata ∧ last.IsRecord metadata := by
  obtain ⟨entries, isRecord, ⟨-, rfl⟩ | ⟨rfl, rfl⟩⟩ := withDefaultEntry_cases puts
  · exact ⟨rfl, has, entries, isRecord, differ _ isRecord⟩
  · have inserted : (d.insert (.str default)).2 = d := by rw [Document.insert]
    have holds : d.IsRecord metadata := ⟨entries, isRecord, differ _ isRecord⟩
    rw [inserted]
    exact ⟨Document.root_setEntry, holds.keepsEntry has (by decide), holds.setEntry holds⟩

theorem carries_ofYaml {d : Document} (differ : d.KeysDiffer) (existingDiffer : existing.NamesDiffer)
    (reads : ofYaml d = .ok submission) (replaces : submission.replacing existing = .ok document) :
    ∃ version, versionOf existing = .ok version ∧ document.dig? versionPath = some version := by
  obtain ⟨⟨metadata, d₁⟩, putsMetadata, reads⟩ := bind_eq_ok_iff.mp reads
  obtain ⟨⟨namespaceName, d₂⟩, putsNamespace, reads⟩ := bind_eq_ok_iff.mp reads
  obtain ⟨own, -, reads⟩ := bind_eq_ok_iff.mp reads
  obtain ⟨rootKept, hasMetadata, metadataDiffers⟩ := hasEntry_metadata differ putsMetadata
  obtain ⟨rootKeptToo, has, isRecord⟩ := hasEntry_namespace hasMetadata metadataDiffers putsNamespace
  rw [← rootKept, ← rootKeptToo] at has
  -- the defaults are in place; what is left is the version that is written last
  have carried : ∀ version, versionOf existing = .ok version →
      ((d₂.insert version).2.setEntry metadata "resourceVersion" (d₂.insert version).1).plain =
        .ok document → document.dig? versionPath = some version := by
    intro version isVersion sent
    exact Document.dig?_of_plain (by decide) (by decide) (by decide)
      (existingDiffer.of_dig? (versionOf_eq_ok_iff.mp isVersion)) has isRecord sent
  dsimp only at reads
  split at reads
  · cases reads
  · obtain ⟨_, -, reads⟩ := bind_eq_ok_iff.mp reads
    obtain ⟨_, -, same⟩ := bind_eq_ok_iff.mp reads
    cases same
    obtain ⟨version, isVersion, sent⟩ := bind_eq_ok_iff.mp replaces
    exact ⟨version, isVersion, carried version isVersion sent⟩

end Command.Submission

end AppOperator
