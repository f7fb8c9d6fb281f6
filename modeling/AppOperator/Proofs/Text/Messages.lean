import AppOperator.Proofs.Number.Characters
import AppOperator.Yaml.Shown

/-!
# Values in messages

A value stands in a message with printable characters only: quoted texts escape the others, and
numbers, days and brackets are made without them.  So it stays on its line and no terminal obeys
it.  No value ends in a semicolon, since texts stand in quotes and parts in brackets.
-/

set_option autoImplicit false

namespace AppOperator

namespace Text

variable {p q : Char → Bool} {s t : String} {items : List String}

/-- Every character of the text is one of some characters. -/
def Consists (p : Char → Bool) (s : String) : Prop :=
  ∀ c ∈ s.toList, p c = true

namespace Consists

instance (p : Char → Bool) (s : String) : Decidable (Consists p s) :=
  decidable_of_iff (s.toList.all p = true) List.all_eq_true

theorem append (first : Consists p s) (second : Consists p t) : Consists p (s ++ t) := by
  intro c among
  rw [String.toList_append, List.mem_append] at among
  exact among.elim (first c) (second c)

theorem intercalate (separator : Consists p s) (each : ∀ item ∈ items, Consists p item) :
    Consists p (s.intercalate items) := by
  induction items with
  | nil => exact List.forall_mem_nil _
  | cons item rest ih =>
      obtain ⟨first, others⟩ := List.forall_mem_cons.mp each
      cases rest with
      | nil => simpa using first
      | cons next rest =>
          rw [String.intercalate_cons_cons]
          exact (first.append separator).append (ih others)

theorem join (each : ∀ item ∈ items, Consists p item) : Consists p (String.join items) := by
  intro c among
  rw [String.toList_join, List.mem_flatMap] at among
  obtain ⟨item, isItem, inside⟩ := among
  exact each item isItem c inside

theorem mono (consists : Consists p s) (fewer : ∀ c, p c = true → q c = true) : Consists q s :=
  fun c among => fewer c (consists c among)

end Consists

/-- Every character of the text is shown as itself. -/
abbrev IsPrinted (s : String) : Prop :=
  Consists isPrintable s

def isPlainChar (c : Char) : Bool :=
  isPrintable c && c != ';'

/-- The text is in print and has no semicolon. -/
abbrev IsPlain (s : String) : Prop :=
  Consists isPlainChar s

theorem isPlainChar_iff {c : Char} : isPlainChar c = true ↔ isPrintable c = true ∧ c ≠ ';' := by
  rw [isPlainChar, Bool.and_eq_true, bne_iff_ne]

theorem printed_of_plain (plain : IsPlain s) : IsPrinted s :=
  plain.mono fun _ isPlain => (isPlainChar_iff.mp isPlain).1

theorem semicolon_notMem_of_plain (plain : IsPlain s) : ';' ∉ s.toList :=
  fun among => (isPlainChar_iff.mp (plain ';' among)).2 rfl

/-- How values are shown: in print, and with no semicolon at the end. -/
structure IsShown (s : String) : Prop where
  printed : IsPrinted s
  last : s.toList.getLast? ≠ some ';'

instance (s : String) : Decidable (IsShown s) :=
  decidable_of_iff (IsPrinted s ∧ s.toList.getLast? ≠ some ';')
    ⟨fun both => ⟨both.1, both.2⟩, fun shown => ⟨shown.printed, shown.last⟩⟩

theorem isShown_of_plain (plain : IsPlain s) : IsShown s :=
  ⟨printed_of_plain plain, fun isLast => semicolon_notMem_of_plain plain (List.mem_of_getLast? isLast)⟩

/-- A text ends as its last part does. -/
theorem IsShown.behind (shown : IsShown t) (some_ : t.toList ≠ []) (before : IsPrinted s) :
    IsShown (s ++ t) := by
  refine ⟨before.append shown.printed, ?_⟩
  have isLast : t.toList.getLast? = some (t.toList.getLast some_) := List.getLast?_eq_some_getLast some_
  have last := shown.last
  rw [String.toList_append, List.getLast?_append, isLast, Option.some_or]
  rwa [isLast] at last

/-! ## Quoted texts -/

theorem isPrintable_of_between {c : Char} (low : 0x20 ≤ c.toNat) (high : c.toNat < 0x7F) :
    isPrintable c = true := by
  rw [isPrintable, if_pos high, decide_eq_true low]

theorem isPrintable_digitChar : ∀ n < 16, isPrintable n.digitChar = true := by
  decide

theorem isPrintable_of_mem_toDigits {base n : Nat} (many : 1 < base) (few : base ≤ 16) {c : Char}
    (among : c ∈ base.toDigits n) : isPrintable c = true := by
  induction n using Nat.strongRecOn with
  | ind n ih =>
      rw [Nat.toDigits_eq_if many] at among
      split at among
      · next small =>
          cases List.mem_singleton.mp among
          exact isPrintable_digitChar n (by omega)
      · next large =>
          obtain among | among := List.mem_append.mp among
          · exact ih _ (Nat.div_lt_self (by omega) many) among
          · cases List.mem_singleton.mp among
            exact isPrintable_digitChar _ (Nat.lt_of_lt_of_le (Nat.mod_lt n (by omega)) few)

theorem isPrintable_of_mem_hex {width n : Nat} {c : Char} (among : c ∈ hex width n) :
    isPrintable c = true := by
  obtain among | among := List.mem_append.mp among
  · rw [(List.mem_replicate.mp among).2]
    rfl
  · exact isPrintable_of_mem_toDigits (by decide) (by decide) among

/-- What an escape consists of is printable as soon as its parts are. -/
theorem isPrintable_of_mem_escape {mark c : Char} {rest : List Char}
    (isMark : isPrintable mark = true) (inside : ∀ d ∈ rest, isPrintable d = true)
    (among : c ∈ '\\' :: mark :: rest) : isPrintable c = true := by
  obtain rfl | among := List.mem_cons.mp among
  · rfl
  · obtain rfl | among := List.mem_cons.mp among
    · exact isMark
    · exact inside c among

theorem isPrintable_quoteFor (cs : List Char) : isPrintable (quoteFor cs) = true := by
  unfold quoteFor
  split <;> rfl

theorem isPrintable_of_mem_quotedChar {quote c d : Char} (isQuote : isPrintable quote = true)
    (among : d ∈ quotedChar quote c) : isPrintable d = true := by
  unfold quotedChar at among
  split at among
  · next own =>
      have isOwn : isPrintable c = true := by
        obtain rfl | rfl : c = quote ∨ c = '\\' := by simpa using own
        · exact isQuote
        · rfl
      exact isPrintable_of_mem_escape isOwn (List.forall_mem_nil _) among
  · repeat' split at among
    · exact isPrintable_of_mem_escape rfl (List.forall_mem_nil _) among
    · exact isPrintable_of_mem_escape rfl (List.forall_mem_nil _) among
    · exact isPrintable_of_mem_escape rfl (List.forall_mem_nil _) among
    · next printable =>
        cases List.mem_singleton.mp among
        exact printable
    · exact isPrintable_of_mem_escape rfl (fun _ => isPrintable_of_mem_hex) among
    · exact isPrintable_of_mem_escape rfl (fun _ => isPrintable_of_mem_hex) among
    · exact isPrintable_of_mem_escape rfl (fun _ => isPrintable_of_mem_hex) among

/-- Printable characters between two quotes. -/
theorem isShown_between (before : List Char) {quote : Char} {inner : List Char} (isQuote : isPrintable quote = true)
    (notSemicolon : quote ≠ ';') (start : ∀ c ∈ before, isPrintable c = true)
    (inside : ∀ c ∈ inner, isPrintable c = true) :
    IsShown (String.ofList (before ++ quote :: inner ++ [quote])) := by
  refine ⟨?_, ?_⟩
  · intro c among
    simp only [String.toList_ofList, List.mem_append, List.mem_cons, List.not_mem_nil, or_false]
      at among
    obtain (among | rfl | among) | rfl := among
    · exact start c among
    · exact isQuote
    · exact inside c among
    · exact isQuote
  · rw [String.toList_ofList, List.getLast?_concat]
    simpa using notSemicolon

theorem quoteFor_ne_semicolon (cs : List Char) : quoteFor cs ≠ ';' := by
  unfold quoteFor
  split <;> decide

theorem isShown_quoted (s : String) : IsShown (quoted s) := by
  refine isShown_between [] (isPrintable_quoteFor _) (quoteFor_ne_semicolon _)
    (List.forall_mem_nil _) ?_
  intro c among
  obtain ⟨own, -, among⟩ := List.mem_flatMap.mp among
  exact isPrintable_of_mem_quotedChar (isPrintable_quoteFor _) among

/-! ## Numbers -/

theorem isPlainChar_of_isNumberChar {c : Char} (isNumber : isNumberChar c = true) :
    isPlainChar c = true := by
  rw [isNumberChar, Bool.or_eq_true] at isNumber
  obtain digit | other := isNumber
  · rw [Char.isDigit, Bool.and_eq_true, decide_eq_true_eq, decide_eq_true_eq] at digit
    have low : 48 ≤ c.toNat := digit.1
    have high : c.toNat ≤ 57 := digit.2
    refine isPlainChar_iff.mpr ⟨isPrintable_of_between (by omega) (by omega), ?_⟩
    rintro rfl
    exact absurd high (by decide)
  · have each : Consists isPlainChar "+-.eNaInfity" := by decide
    exact each c (by simpa using other)

theorem isPlain_of_inNumberChars (inNumber : InNumberChars s) : IsPlain s :=
  Consists.mono inNumber fun _ => isPlainChar_of_isNumberChar

theorem isPlain_intText (n : Int) : IsPlain (Decimal.intText n) :=
  isPlain_of_inNumberChars (Decimal.inNumberChars_intText n)

theorem isPlain_documentText (x : Binary64) : IsPlain (Decimal.documentText x) :=
  isPlain_of_inNumberChars (Decimal.inNumberChars_documentText x)

/-- Items between brackets. -/
theorem isShown_enclosed {opening closing : String} {items : List String}
    (opens : IsPrinted opening) (closes : IsShown closing) (some_ : closing.toList ≠ [])
    (each : ∀ item ∈ items, IsPrinted item) :
    IsShown (opening ++ ", ".intercalate items ++ closing) :=
  closes.behind some_ (opens.append (.intercalate (by decide) each))

end Text

open Text

/-! ## Documents -/

mutual

theorem Json.isShown_shown : ∀ x : Json, IsShown x.shown
  | .null => by decide
  | .bool b => by cases b <;> decide
  | .int n => isShown_of_plain (isPlain_intText n)
  | .float x => isShown_of_plain (isPlain_documentText x)
  | .str s => isShown_quoted s
  | .arr xs => isShown_enclosed (by decide) (by decide) (by decide) (isPrinted_shownItems xs)
  | .obj fs => isShown_enclosed (by decide) (by decide) (by decide) (isPrinted_shownFields fs)

theorem Json.isPrinted_shownItems : ∀ xs : List Json, ∀ item ∈ shownItems xs, IsPrinted item
  | [] => List.forall_mem_nil _
  | x :: xs => List.forall_mem_cons.mpr ⟨(isShown_shown x).printed, isPrinted_shownItems xs⟩

theorem Json.isPrinted_shownFields : ∀ fs : Fields, ∀ item ∈ shownFields fs, IsPrinted item
  | [] => List.forall_mem_nil _
  | (name, x) :: fs =>
      List.forall_mem_cons.mpr
        ⟨((isShown_quoted name).printed.append (by decide)).append (isShown_shown x).printed,
          isPrinted_shownFields fs⟩

end

/-! ## YAML documents -/

namespace Yaml

theorem isPrintable_ofNat : ∀ n < 0x7F, 0x20 ≤ n → isPrintable (Char.ofNat n) = true := by
  decide

theorem isPrintable_of_mem_shownOctet {quote c : Char} {octet : UInt8}
    (isQuote : isPrintable quote = true) (among : c ∈ shownOctet quote octet) :
    isPrintable c = true := by
  unfold shownOctet at among
  dsimp only at among
  split at among
  · next own =>
      have isOwn : isPrintable (Char.ofNat octet.toNat) = true := by
        obtain same | same : Char.ofNat octet.toNat = quote ∨ Char.ofNat octet.toNat = '\\' := by
          simpa using own
        · rw [same]
          exact isQuote
        · rw [same]
          rfl
      exact isPrintable_of_mem_escape isOwn (List.forall_mem_nil _) among
  · repeat' split at among
    · exact isPrintable_of_mem_escape rfl (List.forall_mem_nil _) among
    · exact isPrintable_of_mem_escape rfl (List.forall_mem_nil _) among
    · exact isPrintable_of_mem_escape rfl (List.forall_mem_nil _) among
    · next between =>
        cases List.mem_singleton.mp among
        rw [Bool.and_eq_true, decide_eq_true_eq, decide_eq_true_eq] at between
        exact isPrintable_ofNat _ between.2 between.1
    · exact isPrintable_of_mem_escape rfl (fun _ => isPrintable_of_mem_hex) among

theorem isShown_shownOctets (octets : List UInt8) : IsShown (shownOctets octets) := by
  refine isShown_between ['b'] (isPrintable_quoteFor _) (quoteFor_ne_semicolon _)
    (List.forall_mem_singleton.mpr rfl) ?_
  intro c among
  obtain ⟨own, -, among⟩ := List.mem_flatMap.mp among
  exact isPrintable_of_mem_shownOctet (isPrintable_quoteFor _) among

theorem isPrinted_natText (n : Nat) : IsPrinted (Decimal.natText n) := by
  intro c among
  rw [Decimal.natText, String.toList_ofList] at among
  exact isPrintable_of_mem_toDigits (by decide) (by decide) among

theorem isPrinted_of_mem_numbers {numbers : List Nat} :
    ∀ item ∈ numbers.map Decimal.natText, IsPrinted item := by
  intro item among
  obtain ⟨n, -, rfl⟩ := List.mem_map.mp among
  exact isPrinted_natText n

theorem Day.isShown_shown (d : Day) : IsShown d.shown :=
  isShown_enclosed (by decide) (by decide) (by decide) isPrinted_of_mem_numbers

theorem Moment.isPrinted_shownMinutes (minutes : Int) : IsPrinted (shownMinutes minutes) := by
  unfold shownMinutes
  extract_lets days seconds parts
  have each : ∀ item ∈ parts, IsPrinted item := by
    intro item among
    obtain among | among := List.mem_append.mp among
    · split at among
      · cases among
      · cases List.mem_singleton.mp among
        exact .append (by decide) (printed_of_plain (isPlain_intText _))
    · split at among
      · cases among
      · cases List.mem_singleton.mp among
        exact .append (by decide) (printed_of_plain (isPlain_intText _))
  refine .append (.append (by decide) ?_) (by decide)
  split
  · decide
  · exact Consists.intercalate (by decide) each

theorem Moment.isShown_shown (m : Moment) : IsShown m.shown := by
  unfold shown
  extract_lets small offset
  refine isShown_enclosed (by decide) (by decide) (by decide) ?_
  intro item among
  obtain among | among := List.mem_append.mp among
  · exact isPrinted_of_mem_numbers item among
  · cases stated : m.offset with
    | none =>
        simp only [offset, stated] at among
        cases among
    | some minutes =>
        simp only [offset, stated] at among
        cases List.mem_singleton.mp among
        refine .append (by decide) ?_
        split
        · decide
        · exact .append (.append (by decide) (isPrinted_shownMinutes minutes)) (by decide)

/-- The items of a part, or three points where it stands inside itself. -/
theorem isPrinted_of_mem_shown {again : Bool} {items : List String}
    (each : ∀ item ∈ items, IsPrinted item) :
    ∀ item ∈ (if again then ["..."] else items), IsPrinted item := by
  cases again
  · exact each
  · exact List.forall_mem_singleton.mpr (by decide)

theorem Document.isShown_shownIn (d : Document) : ∀ (fuel : Nat) (outer : List Nat) (value : Value),
    IsShown (d.shownIn fuel outer value)
  | _, _, .null => by
      rw [shownIn]
      decide
  | _, _, .truth value => by
      rw [shownIn]
      cases value <;> decide
  | _, _, .whole value => by
      rw [shownIn]
      exact isShown_of_plain (isPlain_intText value)
  | _, _, .number value => by
      rw [shownIn]
      exact isShown_of_plain (isPlain_documentText value)
  | _, _, .text value => by
      rw [shownIn]
      exact isShown_quoted value
  | _, _, .octets value => by
      rw [shownIn]
      exact isShown_shownOctets value
  | _, _, .instant (.day value) => by
      rw [shownIn]
      exact value.isShown_shown
  | _, _, .instant (.moment value) => by
      rw [shownIn]
      exact value.isShown_shown
  | 0, _, .part _ => by
      rw [shownIn]
      decide
  | fuel + 1, outer, .part number => by
      have inner (value : Value) : IsPrinted (d.shownIn fuel (number :: outer) value) :=
        (d.isShown_shownIn fuel (number :: outer) value).printed
      have each (values : List Value) :
          ∀ item ∈ values.map (d.shownIn fuel (number :: outer)), IsPrinted item :=
        List.forall_mem_map.mpr fun value _ => inner value
      rw [shownIn]
      split
      · exact isShown_enclosed (by decide) (by decide) (by decide) (isPrinted_of_mem_shown (each _))
      · refine isShown_enclosed (by decide) (by decide) (by decide) (isPrinted_of_mem_shown ?_)
        refine List.forall_mem_map.mpr fun pair _ => ?_
        exact (isShown_enclosed (by decide) (by decide) (by decide) (each [pair.1, pair.2])).printed
      · refine isShown_enclosed (by decide) (by decide) (by decide) (isPrinted_of_mem_shown ?_)
        refine List.forall_mem_map.mpr fun entry _ => ?_
        exact ((inner entry.1).append (by decide)).append (inner entry.2)
      · decide
      · exact isShown_enclosed (by decide) (by decide) (by decide) (each _)

theorem Document.isShown_shown (d : Document) (value : Value) : IsShown (d.shown value) :=
  d.isShown_shownIn _ _ _

end Yaml

end AppOperator
