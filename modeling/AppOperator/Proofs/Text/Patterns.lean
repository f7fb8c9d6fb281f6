import AppOperator.Text.Pattern

/-!
# Where patterns lead

The places that a pattern goes to are computed one part after the other (`Pattern.spots`).
What they ought to be is said by rules, one or two for every kind of part (`Pattern.Leads`),
and both agree: no repetition goes on for longer than there are characters.
-/

set_option autoImplicit false

namespace AppOperator.Text.Pattern

/-- A pattern goes from one place of a text to another. -/
inductive Leads : Pattern → Spot → Spot → Prop where
  | start {rest : List Char} : Leads .start ⟨0, rest⟩ ⟨0, rest⟩
  | finish {s : Spot} (isEnd : s.isEnd = true) : Leads .finish s s
  | oneOf {ranges : List (Char × Char)} {position : Nat} {c : Char} {rest : List Char}
      (among : isAmong ranges c = true) :
      Leads (.oneOf ranges) ⟨position, c :: rest⟩ ⟨position + 1, rest⟩
  | leftOut {inner : Pattern} {s : Spot} : Leads (.optional inner) s s
  | takenIn {inner : Pattern} {s t : Spot} (inside : Leads inner s t) :
      Leads (.optional inner) s t
  | stop {inner : Pattern} {s : Spot} : Leads (.many inner) s s
  | again {inner : Pattern} {s m t : Spot} (first : Leads inner s m)
      (more : Leads (.many inner) m t) : Leads (.many inner) s t
  | seq {p q : Pattern} {s m t : Spot} (first : Leads p s m) (second : Leads q m t) :
      Leads (.seq p q) s t

variable {p q inner : Pattern} {s t : Spot} {ranges : List (Char × Char)}

/-- A pattern passes over some characters, and the places count them. -/
theorem Leads.onward (leads : p.Leads s t) :
    ∃ passed, s.rest = passed ++ t.rest ∧ t.position = s.position + passed.length := by
  induction leads with
  | start => exact ⟨[], rfl, rfl⟩
  | finish isEnd => exact ⟨[], rfl, rfl⟩
  | @oneOf ranges position c rest among => exact ⟨[c], rfl, rfl⟩
  | leftOut => exact ⟨[], rfl, rfl⟩
  | takenIn inside ih => exact ih
  | stop => exact ⟨[], rfl, rfl⟩
  | again first more ihFirst ihMore | seq first more ihFirst ihMore =>
      obtain ⟨before, restFirst, placeFirst⟩ := ihFirst
      obtain ⟨after, restMore, placeMore⟩ := ihMore
      refine ⟨before ++ after, ?_, ?_⟩
      · rw [restFirst, restMore, List.append_assoc]
      · rw [placeMore, placeFirst, List.length_append, Nat.add_assoc]

/-- A pattern stays where it is, or it gets on and fewer characters follow. -/
theorem Leads.eq_or_advances (leads : p.Leads s t) :
    t = s ∨ s.position < t.position ∧ t.rest.length < s.rest.length := by
  obtain ⟨passed, rest, place⟩ := leads.onward
  cases passed with
  | nil =>
      left
      cases s
      cases t
      simp_all
  | cons c passed =>
      right
      simp only [rest, place, List.length_cons, List.length_append]
      omega

theorem mem_repeated_self (step : Spot → List Spot) (fuel : Nat) (s : Spot) :
    s ∈ repeated step fuel s := by
  cases fuel <;> simp [repeated]

theorem leads_of_mem_repeated (sound : ∀ s t, t ∈ inner.spots s → inner.Leads s t) {fuel : Nat}
    (among : t ∈ repeated inner.spots fuel s) : Leads (.many inner) s t := by
  induction fuel generalizing s with
  | zero =>
      simp only [repeated, List.mem_singleton] at among
      subst among
      exact .stop
  | succ fuel ih =>
      simp only [repeated, List.mem_cons, List.mem_flatMap, List.mem_filter] at among
      obtain rfl | ⟨next, ⟨first, -⟩, more⟩ := among
      · exact .stop
      · exact .again (sound s next first) (ih more)

theorem mem_repeated_of_leads (complete : ∀ s t, inner.Leads s t → t ∈ inner.spots s)
    (leads : Leads (.many inner) s t) {fuel : Nat} (enough : s.rest.length ≤ fuel) :
    t ∈ repeated inner.spots fuel s := by
  generalize isMany : Pattern.many inner = p at leads
  induction leads generalizing fuel with
  | stop => exact mem_repeated_self _ _ _
  | @again inner s m t first more _ ih =>
      cases isMany
      -- a round that stays in place adds nothing; any other leaves fewer characters, so the
      -- fuel lasts
      obtain rfl | ⟨advances, fewer⟩ := first.eq_or_advances
      · exact ih enough rfl
      · cases fuel with
        | zero => omega
        | succ fuel =>
            simp only [repeated, List.mem_cons, List.mem_flatMap, List.mem_filter]
            right
            refine ⟨m, ⟨complete s m first, ?_⟩, ih ?_ rfl⟩
            · simpa using advances
            · omega
  | _ => cases isMany

/-- The places that are computed are those that the rules allow. -/
theorem mem_spots_iff : t ∈ p.spots s ↔ p.Leads s t := by
  induction p generalizing s t with
  | start =>
      obtain ⟨position, rest⟩ := s
      constructor
      · intro among
        by_cases first : position = 0
        · subst first
          simp only [spots, if_true, List.mem_singleton] at among
          subst among
          exact .start
        · simp [spots, first] at among
      · intro leads
        cases leads
        simp [spots]
  | finish =>
      constructor
      · intro among
        by_cases isEnd : s.isEnd = true
        · simp only [spots, isEnd, if_true, List.mem_singleton] at among
          subst among
          exact .finish isEnd
        · simp [spots, isEnd] at among
      · intro leads
        cases leads with
        | finish isEnd => simp [spots, isEnd]
  | oneOf ranges =>
      obtain ⟨position, rest⟩ := s
      cases rest with
      | nil =>
          constructor
          · intro among
            simp [spots] at among
          · intro leads
            cases leads
      | cons c rest =>
          constructor
          · intro among
            by_cases isMember : isAmong ranges c = true
            · simp only [spots, isMember, if_true, List.mem_singleton] at among
              subst among
              exact .oneOf isMember
            · simp [spots, isMember] at among
          · intro leads
            cases leads with
            | oneOf isMember => simp [spots, isMember]
  | optional inner ih =>
      simp only [spots, List.mem_cons, ih]
      constructor
      · rintro (rfl | inside)
        · exact .leftOut
        · exact .takenIn inside
      · intro leads
        cases leads with
        | leftOut => exact .inl rfl
        | takenIn inside => exact .inr inside
  | many inner ih =>
      constructor
      · exact leads_of_mem_repeated fun s t => ih.mp
      · intro leads
        exact mem_repeated_of_leads (fun s t => ih.mpr) leads (Nat.le_refl _)
  | seq first second ihFirst ihSecond =>
      simp only [spots, List.mem_flatMap, ihFirst, ihSecond]
      constructor
      · rintro ⟨middle, before, after⟩
        exact .seq before after
      · intro leads
        cases leads with
        | seq before after => exact ⟨_, before, after⟩

theorem spots_isEmpty_iff : (p.spots s).isEmpty = false ↔ ∃ t, p.Leads s t := by
  simp only [← mem_spots_iff, List.isEmpty_eq_false_iff_exists_mem]

theorem isFoundFrom_iff {position : Nat} {cs : List Char} :
    p.isFoundFrom position cs = true ↔
      ∃ before after t, cs = before ++ after ∧ p.Leads ⟨position + before.length, after⟩ t := by
  induction cs generalizing position with
  | nil =>
      simp only [isFoundFrom, Bool.not_eq_true', spots_isEmpty_iff, List.nil_eq_append_iff]
      constructor
      · rintro ⟨t, leads⟩
        exact ⟨[], [], t, ⟨rfl, rfl⟩, leads⟩
      · rintro ⟨_, _, t, ⟨rfl, rfl⟩, leads⟩
        exact ⟨t, leads⟩
  | cons c cs ih =>
      simp only [isFoundFrom, Bool.or_eq_true, Bool.not_eq_true', spots_isEmpty_iff, ih]
      constructor
      · rintro (⟨t, leads⟩ | ⟨before, after, t, rfl, leads⟩)
        · exact ⟨[], c :: cs, t, rfl, leads⟩
        · refine ⟨c :: before, after, t, rfl, ?_⟩
          rwa [List.length_cons, Nat.add_comm before.length, ← Nat.add_assoc]
      · rintro ⟨before, after, t, parts, leads⟩
        cases before with
        | nil =>
            cases parts
            exact .inl ⟨t, leads⟩
        | cons d before =>
            cases parts
            right
            refine ⟨before, after, t, rfl, ?_⟩
            rwa [List.length_cons, Nat.add_comm before.length, ← Nat.add_assoc] at leads

/-- A pattern is found in a text if it leads anywhere from some place of it. -/
theorem isFoundIn_iff {cs : List Char} : p.isFoundIn cs = true ↔
    ∃ before after t, cs = before ++ after ∧ p.Leads ⟨before.length, after⟩ t := by
  simp only [isFoundIn, isFoundFrom_iff, Nat.zero_add]

/-! ## Parts -/

theorem leads_seq_iff : Leads (.seq p q) s t ↔ ∃ m, p.Leads s m ∧ q.Leads m t := by
  constructor
  · intro leads
    cases leads with
    | seq first second => exact ⟨_, first, second⟩
  · rintro ⟨m, first, second⟩
    exact .seq first second

theorem leads_start_iff : Leads .start s t ↔ s.position = 0 ∧ t = s := by
  constructor
  · intro leads
    cases leads
    exact ⟨rfl, rfl⟩
  · rintro ⟨first, rfl⟩
    obtain ⟨position, rest⟩ := t
    cases first
    exact .start

theorem leads_finish_iff : Leads .finish s t ↔ s.isEnd = true ∧ t = s := by
  constructor
  · intro leads
    cases leads with
    | finish isEnd => exact ⟨isEnd, rfl⟩
  · rintro ⟨isEnd, rfl⟩
    exact .finish isEnd

theorem leads_optional_iff : Leads (.optional inner) s t ↔ t = s ∨ inner.Leads s t := by
  constructor
  · intro leads
    cases leads with
    | leftOut => exact .inl rfl
    | takenIn inside => exact .inr inside
  · rintro (rfl | inside)
    · exact .leftOut
    · exact .takenIn inside

theorem leads_oneOf_iff : Leads (.oneOf ranges) s t ↔
    ∃ c, isAmong ranges c = true ∧ s.rest = c :: t.rest ∧ t.position = s.position + 1 := by
  constructor
  · intro leads
    cases leads with
    | oneOf among => exact ⟨_, among, rfl, rfl⟩
  · rintro ⟨c, among, rest, place⟩
    obtain ⟨position, before⟩ := s
    obtain ⟨further, after⟩ := t
    dsimp only at rest place
    subst rest place
    exact .oneOf among

theorem leads_many_oneOf_iff : Leads (.many (.oneOf ranges)) s t ↔
    ∃ run, (∀ c ∈ run, isAmong ranges c = true) ∧ s.rest = run ++ t.rest ∧
      t.position = s.position + run.length := by
  constructor
  · intro leads
    generalize isMany : Pattern.many (.oneOf ranges) = p at leads
    induction leads with
    | stop => exact ⟨[], by simp, rfl, rfl⟩
    | again first more _ ih =>
        cases isMany
        obtain ⟨c, among, restFirst, placeFirst⟩ := leads_oneOf_iff.mp first
        obtain ⟨run, all, restMore, placeMore⟩ := ih rfl
        refine ⟨c :: run, ?_, ?_, ?_⟩
        · simpa using ⟨among, all⟩
        · rw [restFirst, restMore, List.cons_append]
        · rw [placeMore, placeFirst, List.length_cons, Nat.add_assoc, Nat.add_comm 1]
    | _ => cases isMany
  · rintro ⟨run, all, rest, place⟩
    induction run generalizing s with
    | nil =>
        have same : t = s := by
          cases s
          cases t
          simp_all
        subst same
        exact .stop
    | cons c run ih =>
        have first : Leads (.oneOf ranges) s ⟨s.position + 1, run ++ t.rest⟩ :=
          leads_oneOf_iff.mpr ⟨c, all c List.mem_cons_self, rest, rfl⟩
        refine .again first (ih (fun d among => all d (List.mem_cons_of_mem c among)) rfl ?_)
        rw [place, List.length_cons, Nat.add_comm run.length, ← Nat.add_assoc]

end AppOperator.Text.Pattern
