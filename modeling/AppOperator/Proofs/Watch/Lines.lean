import AppOperator.Cluster.Rest
import AppOperator.Proofs.Json.Editing

/-!
# Watch streams however they are cut

A payload is cut into lines in one way (`CutInto`), and a reader that takes it chunk by
chunk comes to these lines wherever the chunks end, as what it has left over is always
what follows the last line so far.  What is delivered of the lines is said in terms of
what each of them tells (`Delivers`).
-/

set_option autoImplicit false

namespace AppOperator

/-! ## Lines -/

/-- Octets are these lines, each with its end, and a last one that has not ended. -/
structure CutInto (octets : List UInt8) (lines : List (List UInt8)) (last : List UInt8) : Prop where
  joined : lines.flatMap (· ++ [lineEnd]) ++ last = octets
  whole : ∀ line ∈ lines, lineEnd ∉ line
  unended : lineEnd ∉ last

variable {octets later line last rest : List UInt8} {lines more : List (List UInt8)}

theorem splitLines_end (octets : List UInt8) :
    splitLines (lineEnd :: octets) = ([] :: (splitLines octets).1, (splitLines octets).2) := by
  rw [splitLines]
  split
  · next found => simp [found]
  · next found => simp [found]

theorem splitLines_of_unended (unended : lineEnd ∉ last) : splitLines last = ([], last) := by
  induction last with
  | nil => rfl
  | cons octet rest ih =>
      obtain ⟨different, unended⟩ := not_or.1 (mt List.mem_cons.2 unended)
      rw [splitLines, ih unended]
      simp [Ne.symm different]

theorem splitLines_line (whole : lineEnd ∉ line) (rest : List UInt8) :
    splitLines (line ++ lineEnd :: rest) = (line :: (splitLines rest).1, (splitLines rest).2) := by
  induction line with
  | nil => exact splitLines_end rest
  | cons octet line ih =>
      obtain ⟨different, whole⟩ := not_or.1 (mt List.mem_cons.2 whole)
      rw [List.cons_append, splitLines, ih whole]
      simp [Ne.symm different]

namespace CutInto

theorem splitLines_eq (cut : CutInto octets lines last) : splitLines octets = (lines, last) := by
  obtain ⟨rfl, whole, unended⟩ := cut
  induction lines with
  | nil => exact splitLines_of_unended unended
  | cons line lines ih =>
      have first := whole line (List.mem_cons_self ..)
      have others := ih fun line among => whole line (List.mem_cons_of_mem _ among)
      simp only [List.flatMap_cons, List.append_assoc, List.cons_append]
        at others ⊢
      rw [splitLines_line first, List.nil_append, others]

/-- What is left over goes on with the octets that come later. -/
theorem append (cut : CutInto octets lines last) (goesOn : CutInto (last ++ later) more rest) :
    CutInto (octets ++ later) (lines ++ more) rest where
  joined := by
    rw [List.flatMap_append, List.append_assoc, goesOn.joined, ← List.append_assoc, cut.joined]
  whole := by
    intro line among
    rcases List.mem_append.1 among with among | among
    · exact cut.whole line among
    · exact goesOn.whole line among
  unended := goesOn.unended

end CutInto

theorem cutInto_splitLines (octets : List UInt8) :
    CutInto octets (splitLines octets).1 (splitLines octets).2 := by
  induction octets with
  | nil => exact ⟨rfl, by simp [splitLines], by simp [splitLines]⟩
  | cons octet rest ih =>
      by_cases ends : octet = lineEnd
      · subst ends
        rw [splitLines_end]
        refine ⟨?_, ?_, ih.unended⟩
        · simp [ih.joined]
        · intro line among
          rcases List.mem_cons.1 among with rfl | among
          · exact List.not_mem_nil
          · exact ih.whole line among
      · obtain ⟨joined, whole, unended⟩ := ih
        rw [splitLines]
        split
        · next found =>
            rw [found] at joined unended
            simp only [ends, if_false]
            refine ⟨?_, by simp, ?_⟩
            · simpa using joined
            · exact List.not_mem_cons_of_ne_of_not_mem (Ne.symm ends) unended
        · next line lines last found =>
            rw [found] at joined whole unended
            simp only [ends, if_false]
            refine ⟨?_, ?_, unended⟩
            · simpa using joined
            · intro other among
              rcases List.mem_cons.1 among with rfl | among
              · have wholeLine := whole line (List.mem_cons_self ..)
                exact List.not_mem_cons_of_ne_of_not_mem (Ne.symm ends) wholeLine
              · exact whole other (List.mem_cons_of_mem _ among)

/-! ## Chunks -/

/-- The events of lines come before those of the lines after them, unless a fault does. -/
theorem eventsOf_append (lines more : List (List UInt8)) : eventsOf (lines ++ more) =
    match eventsOf lines with
    | (events, some fault) => (events, some fault)
    | (events, none) => (events ++ (eventsOf more).1, (eventsOf more).2) := by
  induction lines with
  | nil => rfl
  | cons line lines ih =>
      rw [List.cons_append, eventsOf, eventsOf, ih]
      split
      · rfl
      · cases WatchEvent.ofLine line with
        | error fault => rfl
        | ok event =>
            obtain ⟨events, fault⟩ := eventsOf lines
            cases fault <;> rfl

theorem LineReader.read_eq {r : LineReader} {chunks : List (List UInt8)}
    (unended : lineEnd ∉ r.pending) (cut : CutInto (r.pending ++ chunks.flatten) lines last) :
    r.read chunks = eventsOf lines := by
  -- on the chunks, for every reader: what is left of a chunk is what the next one starts with
  induction chunks generalizing r lines last with
  | nil =>
      have same := cut.splitLines_eq
      rw [List.flatten_nil, List.append_nil, splitLines_of_unended unended] at same
      cases same
      rfl
  | cons chunk chunks ih =>
      have taken := cutInto_splitLines (r.pending ++ chunk)
      have goesOn := cutInto_splitLines ((splitLines (r.pending ++ chunk)).2 ++ chunks.flatten)
      have both := taken.append goesOn
      -- there is one way to cut the octets, so the lines are those of the chunk and of the rest
      rw [List.append_assoc, ← List.flatten_cons] at both
      have same := both.splitLines_eq.symm.trans cut.splitLines_eq
      rw [← (Prod.mk.inj same).1, eventsOf_append]
      have tail := ih (r := ⟨(splitLines (r.pending ++ chunk)).2⟩) taken.unended goesOn
      rw [LineReader.read, LineReader.take]
      dsimp only
      generalize LineReader.read ⟨(splitLines (r.pending ++ chunk)).2⟩ chunks = told at tail ⊢
      subst tail
      rcases eventsOf (splitLines (r.pending ++ chunk)).1 with ⟨events, _ | fault⟩ <;> rfl

/-! ## What a line tells -/

def documentOf (line : List UInt8) : Except Fault Json :=
  match Encoding.textOf? line with
  | none => .error .undecodable
  | some text => (Json.parse text).mapError fun error => .ofRead error text.toList

theorem ok_bind {ε α β : Type} (x : α) (f : α → Except ε β) : (.ok x >>= f) = f x := rfl

theorem ofLine_eq (line : List UInt8) :
    WatchEvent.ofLine line = documentOf line >>= WatchEvent.ofJson := by
  rw [WatchEvent.ofLine, documentOf]
  cases Encoding.textOf? line with
  | none => rfl
  | some text =>
      cases parsed : Json.parse text with
      | error error => simp only [parsed]; rfl
      | ok document => simp only [parsed]; rfl

/-- The document that stands for an event on a line. -/
def WatchEvent.document (e : WatchEvent) : Json :=
  .obj [("type", e.type), ("object", e.object)]

/-- A line has nothing on it but white space. -/
def Blank (line : List UInt8) : Prop :=
  ∀ octet ∈ line, octet ∈ [9, 10, 11, 12, 13, 32]

theorem isBlankLine_iff : isBlankLine line = true ↔ Blank line := by
  -- there are as many octets as can be tried
  have white : ∀ n < 256, Text.isByteSpace (Char.ofNat n) = true ↔
      UInt8.ofNat n ∈ [9, 10, 11, 12, 13, 32] := by
    decide +kernel
  have alike : ∀ octet : UInt8, Text.isByteSpace (Char.ofNat octet.toNat) = true ↔
      octet ∈ [9, 10, 11, 12, 13, 32] := by
    intro octet
    simpa only [UInt8.ofNat_toNat] using white octet.toNat octet.toNat_lt
  simp only [isBlankLine, List.all_eq_true, alike, Blank]

instance : DecidablePred Blank :=
  fun line => inferInstanceAs (Decidable (∀ octet ∈ line, octet ∈ [9, 10, 11, 12, 13, 32]))

/-- A line holds the document of an event that is no error. -/
inductive Tells (line : List UInt8) : WatchEvent → Prop where
  | event {fields : Fields} {type object : Json} (holds : documentOf line = .ok (.obj fields))
      (hasType : Fields.get? fields "type" = some type) (noError : type ≠ .str "ERROR")
      (hasObject : Fields.get? fields "object" = some object) : Tells line ⟨type, object⟩

/-- A line reports an error; of what it leaves out, the status is null and the texts are empty. -/
inductive Reports (line : List UInt8) : ApiError → Prop where
  | error {fields status : Fields} (holds : documentOf line = .ok (.obj fields))
      (isError : Fields.get? fields "type" = some (.str "ERROR"))
      (hasStatus : (Fields.get? fields "object").getD (.obj []) = .obj status) :
      Reports line ⟨false, (Fields.get? status "code").getD .null,
        (Fields.get? status "reason").getD (.str ""), (Fields.get? status "message").getD (.str "")⟩

/-- There is no event in a line, and this is why. -/
inductive Fails (line : List UInt8) : Fault → Prop where
  | reported {error : ApiError} (reports : Reports line error) : Fails line (.api error)
  | noDocument {fault : Fault} (fails : documentOf line = .error fault) : Fails line fault
  | noRecord {document : Json} (holds : documentOf line = .ok document)
      (other : ∀ fields, document ≠ .obj fields) : Fails line (.noPart document.shape "get")
  | noType {fields : Fields} (holds : documentOf line = .ok (.obj fields))
      (lacks : Fields.get? fields "type" = none) : Fails line (.missingField "type")
  | noObject {fields : Fields} {type : Json} (holds : documentOf line = .ok (.obj fields))
      (hasType : Fields.get? fields "type" = some type) (noError : type ≠ .str "ERROR")
      (lacks : Fields.get? fields "object" = none) : Fails line (.missingField "object")
  | noStatus {fields : Fields} {object : Json} (holds : documentOf line = .ok (.obj fields))
      (isError : Fields.get? fields "type" = some (.str "ERROR"))
      (hasObject : Fields.get? fields "object" = some object)
      (other : ∀ status, object ≠ .obj status) : Fails line (.noPart object.shape "get")

variable {event : WatchEvent} {fault : Fault} {fields : Fields} {type object : Json}

theorem ofJson_of_error (isError : Fields.get? fields "type" = some (.str "ERROR")) :
    WatchEvent.ofJson (.obj fields) =
      reportedError ((Fields.get? fields "object").getD (.obj [])) >>= Except.error := by
  have isText : ((Fields.get? fields "type").getD .null).isText "ERROR" = true := by
    rw [isError]
    exact (Json.isText_iff _).2 rfl
  simp only [WatchEvent.ofJson, Json.fieldOr_obj, ok_bind, isText, if_true]
  cases reportedError ((Fields.get? fields "object").getD (.obj [])) <;> rfl

theorem ofJson_of_noError (noError : Fields.get? fields "type" ≠ some (.str "ERROR")) :
    WatchEvent.ofJson (.obj fields) = (Json.obj fields).entry "type" >>= fun type =>
      (Json.obj fields).entry "object" >>= fun object => .ok ⟨type, object⟩ := by
  have isText : ((Fields.get? fields "type").getD .null).isText "ERROR" = false := by
    rw [Bool.eq_false_iff, ne_eq, Json.isText_iff]
    intro same
    cases hasType : Fields.get? fields "type" with
    | none => simp [hasType] at same
    | some type => exact noError (by rw [hasType, ← same, hasType, Option.getD_some])
  simp only [WatchEvent.ofJson, Json.fieldOr_obj, ok_bind, isText]
  rfl

theorem ofJson_obj_eq_ok_iff : WatchEvent.ofJson (.obj fields) = .ok event ↔
    Fields.get? fields "type" = some event.type ∧ event.type ≠ .str "ERROR" ∧
      Fields.get? fields "object" = some event.object := by
  by_cases isError : Fields.get? fields "type" = some (.str "ERROR")
  · rw [ofJson_of_error isError, bind_eq_ok_iff]
    constructor
    · rintro ⟨_, -, impossible⟩
      cases impossible
    · rintro ⟨hasType, noError, -⟩
      exact absurd (Option.some.inj (hasType.symm.trans isError)) noError
  · rw [ofJson_of_noError isError]
    simp only [bind_eq_ok_iff, Json.entry_obj_eq_ok_iff, Except.ok.injEq]
    constructor
    · rintro ⟨type, hasType, object, hasObject, rfl⟩
      exact ⟨hasType, fun same => isError (same ▸ hasType), hasObject⟩
    · rintro ⟨hasType, -, hasObject⟩
      exact ⟨_, hasType, _, hasObject, rfl⟩

theorem tells_iff : Tells line event ↔ WatchEvent.ofLine line = .ok event := by
  rw [ofLine_eq, bind_eq_ok_iff]
  constructor
  · rintro ⟨holds, hasType, noError, hasObject⟩
    exact ⟨_, holds, ofJson_obj_eq_ok_iff.2 ⟨hasType, noError, hasObject⟩⟩
  · rintro ⟨document, holds, described⟩
    cases document with
    | obj fields =>
        obtain ⟨hasType, noError, hasObject⟩ := ofJson_obj_eq_ok_iff.1 described
        exact .event holds hasType noError hasObject
    | _ => cases described

theorem Fails.ofLine_eq (fails : Fails line fault) : WatchEvent.ofLine line = .error fault := by
  rw [AppOperator.ofLine_eq]
  cases fails with
  | reported reports =>
      obtain ⟨holds, isError, hasStatus⟩ := reports
      rw [holds, ok_bind, ofJson_of_error isError, hasStatus]
      rfl
  | noDocument fails =>
      rw [fails]
      rfl
  | noRecord holds other =>
      rename_i document
      rw [holds, ok_bind]
      cases document with
      | obj fields => exact absurd rfl (other fields)
      | _ => rfl
  | noType holds lacks =>
      rw [holds, ok_bind, ofJson_of_noError (by simp [lacks])]
      simp only [Json.entry, lacks]
      rfl
  | noObject holds hasType noError lacks =>
      rw [holds, ok_bind, ofJson_of_noError (by simpa [hasType] using noError)]
      simp only [Json.entry, hasType, lacks]
      rfl
  | noStatus holds isError hasObject other =>
      rename_i object
      rw [holds, ok_bind, ofJson_of_error isError, hasObject, Option.getD_some]
      cases object with
      | obj status => exact absurd rfl (other status)
      | _ => rfl

theorem fails_of_error (holds : documentOf line = .ok (.obj fields))
    (isError : Fields.get? fields "type" = some (.str "ERROR")) : ∃ fault, Fails line fault := by
  cases hasObject : Fields.get? fields "object" with
  | none =>
      have hasStatus : (Fields.get? fields "object").getD (.obj []) = .obj [] := by
        rw [hasObject, Option.getD_none]
      exact ⟨_, .reported (.error holds isError hasStatus)⟩
  | some object =>
      cases object with
      | obj status =>
          have hasStatus : (Fields.get? fields "object").getD (.obj []) = .obj status := by
            rw [hasObject, Option.getD_some]
          exact ⟨_, .reported (.error holds isError hasStatus)⟩
      | _ => exact ⟨_, .noStatus holds isError hasObject (by simp)⟩

theorem tells_or_fails (line : List UInt8) :
    (∃ event, Tells line event) ∨ ∃ fault, Fails line fault := by
  cases holds : documentOf line with
  | error fault => exact .inr ⟨fault, .noDocument holds⟩
  | ok document =>
      cases document with
      | obj fields =>
          cases hasType : Fields.get? fields "type" with
          | none => exact .inr ⟨_, .noType holds hasType⟩
          | some type =>
              by_cases isError : type = .str "ERROR"
              · subst isError
                exact .inr (fails_of_error holds hasType)
              · cases hasObject : Fields.get? fields "object" with
                | none => exact .inr ⟨_, .noObject holds hasType isError hasObject⟩
                | some object => exact .inl ⟨_, .event holds hasType isError hasObject⟩
      | _ => exact .inr ⟨_, .noRecord holds (by simp)⟩

theorem fails_iff : Fails line fault ↔ WatchEvent.ofLine line = .error fault := by
  refine ⟨Fails.ofLine_eq, fun failed => ?_⟩
  -- a line has a reason to fail if it tells nothing, and it has no other than the one found
  rcases tells_or_fails line with ⟨event, tells⟩ | ⟨other, fails⟩
  · rw [tells_iff.1 tells] at failed
    cases failed
  · have same := fails.ofLine_eq.symm.trans failed
    cases same
    exact fails

/-! ## What is delivered -/

variable {events : List WatchEvent} {ends : Option Fault}

/-- The events of lines, in order, up to the first line that has none; blank lines say nothing. -/
inductive Delivers : List (List UInt8) → List WatchEvent → Option Fault → Prop where
  | ended : Delivers [] [] none
  | blank {line : List UInt8} {lines : List (List UInt8)} {events : List WatchEvent}
      {ends : Option Fault} (blank : Blank line) (later : Delivers lines events ends) :
      Delivers (line :: lines) events ends
  | event {line : List UInt8} {lines : List (List UInt8)} {event : WatchEvent}
      {events : List WatchEvent} {ends : Option Fault} (spoken : ¬Blank line)
      (tells : Tells line event) (later : Delivers lines events ends) :
      Delivers (line :: lines) (event :: events) ends
  | fault {line : List UInt8} {lines : List (List UInt8)} {fault : Fault} (spoken : ¬Blank line)
      (fails : Fails line fault) : Delivers (line :: lines) [] (some fault)

theorem delivers_eventsOf (lines : List (List UInt8)) :
    Delivers lines (eventsOf lines).1 (eventsOf lines).2 := by
  induction lines with
  | nil => exact .ended
  | cons line lines ih =>
      rw [eventsOf]
      split
      · next blank => exact .blank (isBlankLine_iff.1 blank) ih
      · next spoken =>
          rw [isBlankLine_iff] at spoken
          split
          · next fault found => exact .fault spoken (fails_iff.2 found)
          · next event found => exact .event spoken (tells_iff.2 found) ih

theorem Delivers.eventsOf_eq (delivers : Delivers lines events ends) :
    eventsOf lines = (events, ends) := by
  induction delivers with
  | ended => rfl
  | blank blank later ih => rw [eventsOf, if_pos (isBlankLine_iff.2 blank), ih]
  | event spoken tells later ih =>
      rw [eventsOf, if_neg (mt isBlankLine_iff.1 spoken), tells_iff.1 tells, ih]
  | fault spoken fails => rw [eventsOf, if_neg (mt isBlankLine_iff.1 spoken), fails_iff.1 fails]

/-- Lines with nothing but events on them deliver these events. -/
theorem Delivers.of_told {sent : List WatchEvent} {encode : WatchEvent → List UInt8}
    (onLines : lines.filter (¬Blank ·) = sent.map encode)
    (tells : ∀ event ∈ sent, Tells (encode event) event) : Delivers lines sent none := by
  induction lines generalizing sent with
  | nil =>
      cases List.map_eq_nil_iff.1 onLines.symm
      exact .ended
  | cons line lines ih =>
      by_cases blank : Blank line
      · exact .blank blank (ih (by simpa [blank] using onLines) tells)
      · cases sent with
        | nil => simp [blank] at onLines
        | cons event sent =>
            simp only [List.filter_cons, blank, not_false_eq_true, decide_true, if_true,
              List.map_cons, List.cons.injEq] at onLines
            obtain ⟨rfl, onLines⟩ := onLines
            refine .event blank (tells event (List.mem_cons_self ..)) (ih onLines ?_)
            intro event among
            exact tells event (List.mem_cons_of_mem _ among)

/-- What a watch delivers that is answered with a response. -/
def RestClient.watching (c : RestClient) (kind : ResourceKind)
    (namespaceName version : Option String) (seconds : Int) (response : StreamResponse) :
    List WatchEvent × Option Fault :=
  ((c.watch kind namespaceName version seconds).run (fun state _ => (.ok response, state)) ()).1

theorem RestClient.watching_eq {c : RestClient} {kind : ResourceKind}
    {namespaceName version : Option String} {seconds : Int} {response : StreamResponse}
    (connected : c.connected = true) (accepted : response.head.isError = false)
    (cut : CutInto response.chunks.flatten lines last) (delivers : Delivers lines events ends) :
    c.watching kind namespaceName version seconds response =
      (events, ends.or (response.broken.map (·.fault ("watch " ++ kind.plural)))) := by
  have read : LineReader.empty.read response.chunks = (events, ends) :=
    (LineReader.read_eq List.not_mem_nil cut).trans delivers.eventsOf_eq
  have opened : c.watching kind namespaceName version seconds response =
      watched kind (.ok response) := by
    rw [watching, watch, connected]
    rfl
  rw [opened]
  simp only [watched, accepted, read]
  cases ends <;> rfl

/-- However a payload is cut into chunks, a watch delivers the events of its complete lines
up to the first line that has none, and ends with what that line fails with, if there is
one, or else as the response ends; events that are sent one on a line all arrive. -/
theorem watch_reads_lines_however_cut (c : RestClient) (kind : ResourceKind)
    (namespaceName version : Option String) (seconds : Int) (head : HttpResponse)
    (connected : c.connected = true) (accepted : head.isError = false) (payload : List UInt8) :
    (∃ lines last events ends, CutInto payload lines last ∧ Delivers lines events ends) ∧
      ∀ lines last events ends, CutInto payload lines last → Delivers lines events ends →
        (∀ chunks broken, chunks.flatten = payload →
          c.watching kind namespaceName version seconds ⟨head, chunks, broken⟩ =
            (events, ends.or (broken.map (·.fault ("watch " ++ kind.plural))))) ∧
        ∀ (sent : List WatchEvent) (encode : WatchEvent → List UInt8),
          (∀ event ∈ sent, event.type ≠ .str "ERROR" ∧
            documentOf (encode event) = .ok event.document) →
          lines.filter (¬Blank ·) = sent.map encode → events = sent ∧ ends = none := by
  constructor
  · exact ⟨_, _, _, _, cutInto_splitLines payload, delivers_eventsOf _⟩
  · intro lines last events ends cut delivers
    constructor
    · rintro chunks broken rfl
      exact RestClient.watching_eq connected accepted cut delivers
    · intro sent encode undone onLines
      have told : Delivers lines sent none := .of_told onLines fun event among =>
        .event (undone event among).2 rfl (undone event among).1 rfl
      exact Prod.mk.inj (delivers.eventsOf_eq.symm.trans told.eventsOf_eq)

/-- A line with a letter of two octets, the second of which is the 36th of the line. -/
def sampleLine : List UInt8 :=
  Utf8.encode "\x7b\"type\":\"ADDED\",\"object\":\x7b\"name\":\"é\"\x7d\x7d"

def sampleReport : List UInt8 :=
  Utf8.encode "\x7b\"type\":\"ERROR\",\"object\":\x7b\"code\":410,\"reason\":\"Gone\"\x7d\x7d"

theorem sampleLine_tells : Tells sampleLine ⟨.str "ADDED", .obj [("name", .str "é")]⟩ := by
  have holds : documentOf sampleLine =
      .ok (.obj [("type", .str "ADDED"), ("object", .obj [("name", .str "é")])]) :=
    eq_ok_of_toOption (by decide +kernel)
  exact .event holds rfl (by decide) rfl

theorem sampleReport_fails :
    Fails sampleReport (.api ⟨false, .int 410, .str "Gone", .str ""⟩) := by
  have holds : documentOf sampleReport = .ok (.obj [("type", .str "ERROR"),
      ("object", .obj [("code", .int 410), ("reason", .str "Gone")])]) :=
    eq_ok_of_toOption (by decide +kernel)
  exact .reported (.error holds rfl rfl)

/-- The first chunk ends within a letter, and what follows the reported error is not read. -/
theorem watch_reads_lines_cut_within_a_letter :
    let client : RestClient := ⟨"https://cluster", none, none, true, .ofInt 10, true, 0⟩
    let head : HttpResponse := ⟨200, none, ""⟩
    client.connected = true ∧ head.isError = false ∧
      client.watching .service none none 60
          ⟨head, [sampleLine.take 35, [], sampleLine.drop 35 ++ [10, 32], 10 :: sampleReport,
            10 :: sampleLine], none⟩ =
        ([⟨.str "ADDED", .obj [("name", .str "é")]⟩],
          some (.api ⟨false, .int 410, .str "Gone", .str ""⟩)) := by
  intro client head
  have cut : CutInto (sampleLine ++ [10, 32, 10] ++ sampleReport ++ 10 :: sampleLine)
      [sampleLine, [32], sampleReport] sampleLine :=
    ⟨by decide +kernel, by decide +kernel, by decide +kernel⟩
  have delivers : Delivers [sampleLine, [32], sampleReport] _ _ :=
    .event (by decide +kernel) sampleLine_tells
      (.blank (by simp [Blank]) (.fault (by decide +kernel) sampleReport_fails))
  refine ⟨rfl, by decide, ?_⟩
  exact ((watch_reads_lines_however_cut client .service none none 60 head rfl (by decide) _).2
    _ _ _ _ cut delivers).1 _ none (by decide +kernel)

end AppOperator
