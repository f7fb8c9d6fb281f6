import AppOperator.Proofs.Cluster.Assigned
import AppOperator.Proofs.Dialogue.Positions

/-!
# Dialogues confined to places

A dialogue is confined to some places if it reads and writes nothing else, comes back to no
place that it has written at, and does not look at what a store assigns (`Confined`).  Two
stores that agree on the places take it the same way, so that dialogues confined to places
apart from each other come to the same in any order.
-/

set_option autoImplicit false

namespace AppOperator

open Dialogue (Interleaved)
open Store

variable {α β : Type} {places wider rest : List ObjectPlace} {at_ other : ObjectPlace}
  {s t after : Store}

/-- A place that agrees with none of these. -/
def Outside (places : List ObjectPlace) (at_ : ObjectPlace) : Prop :=
  ∀ place ∈ places, (place == at_) = false

theorem Outside.mono (outside : Outside wider at_) (fewer : places ⊆ wider) : Outside places at_ :=
  fun place among => outside place (fewer among)

theorem Outside.congr (outside : Outside places at_) (agree : (at_ == other) = true) :
    Outside places other := by
  intro place among
  rw [← outside place among]
  exact (BEq.congr_right agree).symm

theorem Outside.append (outside : Outside places at_) (outside' : Outside rest at_) :
    Outside (places ++ rest) at_ := by
  intro place among
  rcases List.mem_append.1 among with among | among
  · exact outside place among
  · exact outside' place among

def RepliesFrom (at_ : ObjectPlace) (reply : Reply) : Prop :=
  ∀ live, reply = .ok live → KeptAt at_ live

/-- The dialogue reads and writes at these places alone, and each write is its last call at a
place.  What it does after a write does not depend on the metadata of the reply, and of a
declaration it writes nothing but the status. -/
inductive Confined : List ObjectPlace → ClientM α → Prop
  | done (places : List ObjectPlace) (value : α) : Confined places (.done value)
  | read {places : List ObjectPlace} {kind : ResourceKind} {namespaceName name : Json}
      {next : Reply → ClientM α} (among : ⟨kind.name, namespaceName, name⟩ ∈ places)
      (onwards : ∀ reply, RepliesFrom ⟨kind.name, namespaceName, name⟩ reply →
        Confined places (next reply)) : Confined places (.ask (.get kind namespaceName name) next)
  | write {places rest : List ObjectPlace} {at_ : ObjectPlace} {call : ClientCall}
      {next : Reply → ClientM α} (written : writtenPlace? call = some at_)
      (among : ∃ place ∈ places, (place == at_) = true) (fewer : rest ⊆ places)
      (last : Outside rest at_)
      (statusOnly : at_.kind = ResourceKind.simpleApp.name → call.operation = .updateStatus)
      (blind : ∀ x y, KeptAt at_ x → KeptAt at_ y →
        (∀ name, name ≠ "metadata" → x.field? name = y.field? name) → next (.ok x) = next (.ok y))
      (onwards : ∀ reply, RepliesFrom at_ reply → Confined rest (next reply)) :
      Confined places (.ask call next)

/-- A call that writes at one of these places, and of a declaration nothing but the status. -/
def WritesAt (places : List ObjectPlace) (call : ClientCall) : Prop :=
  ∃ at_, writtenPlace? call = some at_ ∧ (∃ place ∈ places, (place == at_) = true) ∧
    (at_.kind = ResourceKind.simpleApp.name → call.operation = .updateStatus)

theorem WritesAt.mono {call : ClientCall} (writes : WritesAt places call) (fewer : places ⊆ wider) :
    WritesAt wider call := by
  obtain ⟨at_, written, ⟨place, among, agree⟩, statusOnly⟩ := writes
  exact ⟨at_, written, ⟨place, fewer among, agree⟩, statusOnly⟩

theorem Confined.call {call : ClientCall} {next : Reply → ClientM α}
    (confined : Confined places (.ask call next)) :
    call.operation = .get ∨ WritesAt places call := by
  cases confined with
  | read among onwards => exact .inl rfl
  | write written among fewer last statusOnly blind onwards =>
      exact .inr ⟨_, written, among, statusOnly⟩

theorem Confined.mono {p : ClientM α} (confined : Confined places p) (fewer : places ⊆ wider) :
    Confined wider p := by
  induction confined generalizing wider with
  | done places value => exact .done wider value
  | read among onwards ih => exact .read (fewer among) fun reply from_ => ih reply from_ fewer
  | write written among fewer' last statusOnly blind onwards ih =>
      obtain ⟨place, among, agree⟩ := among
      exact .write written ⟨place, fewer among, agree⟩ (List.Subset.trans fewer' fewer) last statusOnly blind
        onwards

/-- Stores in order that have the same failures and the same objects at some places. -/
structure AgreeOn (places : List ObjectPlace) (s t : Store) : Prop where
  inOrder : s.InOrder
  inOrder' : t.InOrder
  failures : t.failures = s.failures
  objects : ∀ place ∈ places, t.get? place = s.get? place

theorem AgreeOn.refl (inOrder : s.InOrder) (places : List ObjectPlace) : AgreeOn places s s :=
  ⟨inOrder, inOrder, rfl, fun _ _ => rfl⟩

/-! ## What is left alone -/

/-- Everything outside some places is left as it is, and so is everything but status and version
of a declaration.  Nothing is taken away. -/
structure Spares (places : List ObjectPlace) (s after : Store) : Prop where
  elsewhere : ∀ at_, Outside places at_ → after.get? at_ = s.get? at_
  declarations : ∀ at_, at_.kind = ResourceKind.simpleApp.name →
    (after.get? at_).map Json.declared = (s.get? at_).map Json.declared
  nothingDeleted : ∀ at_, (s.get? at_).isSome → (after.get? at_).isSome

namespace Spares

theorem of_objects (objects : after.objects = s.objects) : Spares places s after := by
  have same := get?_of_objects objects
  refine ⟨fun at_ _ => same at_, fun at_ _ => ?_, fun at_ present => ?_⟩
  · rw [same]
  · rw [same]
    exact present

theorem trans {middle : Store} (first : Spares places s middle)
    (second : Spares places middle after) : Spares places s after where
  elsewhere at_ outside := (second.elsewhere at_ outside).trans (first.elsewhere at_ outside)
  declarations at_ isDeclaration :=
    (second.declarations at_ isDeclaration).trans (first.declarations at_ isDeclaration)
  nothingDeleted at_ present := second.nothingDeleted at_ (first.nothingDeleted at_ present)

theorem mono (spares : Spares places s after) (fewer : places ⊆ wider) : Spares wider s after :=
  ⟨fun at_ outside => spares.elsewhere at_ (outside.mono fewer), spares.declarations,
    spares.nothingDeleted⟩

theorem of_wrote {object : Json} (wrote : Wrote s at_ object after)
    (among : ∃ place ∈ places, (place == at_) = true)
    (declared : at_.kind = ResourceKind.simpleApp.name →
      (s.get? at_).map Json.declared = some object.declared) : Spares places s after where
  elsewhere := by
    obtain ⟨place, among, same⟩ := among
    intro other outside
    refine wrote.elsewhere other ?_
    rw [← outside place among]
    exact (BEq.congr_left same).symm
  declarations := by
    intro other isDeclaration
    cases here : at_ == other with
    | false => rw [wrote.elsewhere other here]
    | true =>
        have sameKind := ((ObjectPlace.beq_iff at_ other).1 here).1
        rw [← get?_congr here, ← get?_congr here, wrote.here,
          declared (sameKind.trans isDeclaration)]
        rfl
  nothingDeleted := by
    intro other present
    cases here : at_ == other with
    | false =>
        rw [wrote.elsewhere other here]
        exact present
    | true =>
        rw [← get?_congr here, wrote.here]
        rfl

end Spares

/-- A status write changes nothing else of a declaration. -/
theorem declared_of_updateStatus {call : ClientCall} {object : Json}
    (statusWrite : call.operation = .updateStatus) (written : writtenPlace? call = some at_)
    (answered : s.answer call = (.ok object, after)) :
    (s.get? at_).map Json.declared = some object.declared := by
  cases call with
  | updateStatus kind sent =>
      obtain ⟨own, fields, status, metadata, version, stated, found, -, has, rfl, -⟩ :=
        updateStatus_eq_ok answered
      simp only [writtenPlace?, stated] at written
      cases written
      rw [found, Json.declared_set_status has]
      rfl
  | get kind namespaceName name => cases statusWrite
  | create kind object => cases statusWrite
  | update kind object => cases statusWrite
  | delete kind namespaceName name => cases statusWrite

/-! ## One call -/

/-- What one call of a dialogue does to two stores that agree on its places: both keep what they
have at a place, or it has been written alike in both and is left for good. -/
structure Stepped (places rest : List ObjectPlace) (s t s' t' : Store) : Prop where
  fewer : rest ⊆ places
  agree : AgreeOn rest s' t'
  spares : Spares places s s'
  alike : ∀ at_, t.get? at_ = s.get? at_ →
    (s'.get? at_ = s.get? at_ ∧ t'.get? at_ = t.get? at_) ∨
      (Outside rest at_ ∧ AlikeSince (s.get? at_) (s'.get? at_) (t'.get? at_))

theorem stepped_of_objects {s' t' : Store} (agree : AgreeOn places s t) (fewer : rest ⊆ places)
    (objects : s'.objects = s.objects) (objects' : t'.objects = t.objects)
    (failures : t'.failures = s'.failures) : Stepped places rest s t s' t' where
  fewer := fewer
  agree := by
    refine ⟨agree.inOrder.of_objects objects, agree.inOrder'.of_objects objects', failures, ?_⟩
    intro place among
    rw [get?_of_objects objects, get?_of_objects objects', agree.objects place (fewer among)]
  spares := .of_objects objects
  alike := fun at_ _ => .inl ⟨get?_of_objects objects at_, get?_of_objects objects' at_⟩

theorem stepped_of_wrote {s' t' : Store} {x y : Json} (agree : AgreeOn places s t)
    (among : ∃ place ∈ places, (place == at_) = true) (fewer : rest ⊆ places)
    (last : Outside rest at_) (wrote : Wrote s at_ x s') (wrote' : Wrote t at_ y t')
    (declared : at_.kind = ResourceKind.simpleApp.name →
      (s.get? at_).map Json.declared = some x.declared)
    (alike : x.withoutMetadata (assignedNames (s.get? at_)) =
      y.withoutMetadata (assignedNames (s.get? at_))) : Stepped places rest s t s' t' where
  fewer := fewer
  agree := by
    refine ⟨wrote.inOrder agree.inOrder, wrote'.inOrder agree.inOrder', ?_, ?_⟩
    · rw [wrote.failures, wrote'.failures, agree.failures]
    · intro place among
      have different : (at_ == place) = false := by
        rw [← last place among]
        exact BEq.comm
      rw [wrote.elsewhere place different, wrote'.elsewhere place different,
        agree.objects place (fewer among)]
  spares := .of_wrote wrote among declared
  alike := by
    intro other _
    cases here : at_ == other with
    | false => exact .inl ⟨wrote.elsewhere other here, wrote'.elsewhere other here⟩
    | true =>
        right
        refine ⟨last.congr here, ?_⟩
        rw [← get?_congr here, ← get?_congr here, ← get?_congr here, wrote.here, wrote'.here]
        exact congrArg some alike

theorem AgreeOn.get_fst {kind : ResourceKind} {namespaceName name : Json}
    (agree : AgreeOn places s t) (among : ⟨kind.name, namespaceName, name⟩ ∈ places) :
    (t.get kind namespaceName name).1 = (s.get kind namespaceName name).1 := by
  rw [Store.get_fst, Store.get_fst, failure?_of_failures agree.failures]
  cases usable_ : usable ⟨kind.name, namespaceName, name⟩ with
  | error fault => rfl
  | ok found =>
      obtain ⟨rfl, -⟩ := usable_eq_ok_iff.1 usable_
      simp only [agree.objects _ among]

/-- A confined dialogue goes on in the same way from both stores. -/
theorem Confined.step {call : ClientCall} {next : Reply → ClientM α}
    (confined : Confined places (.ask call next)) (agree : AgreeOn places s t) :
    ∃ rest, Confined rest (next (s.answer call).1) ∧
      next (t.answer call).1 = next (s.answer call).1 ∧
      Stepped places rest s t (s.answer call).2 (t.answer call).2 := by
  have failures : (t.answer call).2.failures = (s.answer call).2.failures := by
    rw [(answer_change t call).failures, (answer_change s call).failures, agree.failures]
  cases confined with
  | @read _ kind namespaceName name _ among onwards =>
      have from_ : RepliesFrom ⟨kind.name, namespaceName, name⟩ (s.get kind namespaceName name).1 :=
        fun live answered => agree.inOrder _ live (get_eq_ok_iff.1 answered).2.2
      have unchanged : ∀ u : Store, (u.get kind namespaceName name).2.objects = u.objects := by
        intro u
        rw [get_snd]
        rfl
      exact ⟨places, onwards _ from_, congrArg next (agree.get_fst among),
        stepped_of_objects agree (List.Subset.refl _) (unchanged s) (unchanged t) failures⟩
  | @write _ rest at_ _ _ written among fewer last statusOnly blind onwards =>
      obtain ⟨place, isAmong, same⟩ := among
      have here : AgreeAt at_ s t := by
        refine ⟨agree.inOrder, agree.failures, ?_⟩
        rw [← get?_congr same, ← get?_congr same, agree.objects place isAmong]
      have alike := answer_writtenAlike here written
      generalize answered : s.answer call = result at alike failures ⊢
      generalize t.answer call = result' at alike failures ⊢
      cases alike with
      | refused fault objects objects' =>
          exact ⟨rest, onwards _ (fun live impossible => by cases impossible), rfl,
            stepped_of_objects agree fewer objects objects' failures⟩
      | @written x y s' t' wrote wrote' alike =>
          have kept : KeptAt at_ x := wrote.inOrder agree.inOrder _ _ wrote.here
          have kept' : KeptAt at_ y := wrote'.inOrder agree.inOrder' _ _ wrote'.here
          refine ⟨rest, onwards _ ?_, blind y x kept' kept ?_, stepped_of_wrote agree
            ⟨place, isAmong, same⟩ fewer last wrote wrote' (fun isDeclaration =>
              declared_of_updateStatus (statusOnly isDeclaration) written answered) alike⟩
          · intro live answered
            cases answered
            exact kept
          · intro name beside
            rw [← Json.field?_withoutMetadata y beside, ← alike, Json.field?_withoutMetadata x beside]

/-! ## Whole dialogues -/

theorem Confined.spares {p : ClientM α} (confined : Confined places p) (inOrder : s.InOrder) :
    Spares places s (p.run answer s).2 := by
  induction p generalizing places s with
  | done value => exact .of_objects rfl
  | ask call next ih =>
      obtain ⟨rest, goesOn, -, stepped⟩ := confined.step (.refl inOrder places)
      have later := ih _ goesOn stepped.agree.inOrder
      exact stepped.spares.trans (later.mono stepped.fewer)

theorem Confined.calls {p : ClientM α} (confined : Confined places p) (inOrder : s.InOrder) :
    ∀ call ∈ p.queries answer s, call.operation = .get ∨ WritesAt places call := by
  induction p generalizing places s with
  | done value =>
      intro call among
      cases among
  | ask query next ih =>
      obtain ⟨rest, goesOn, -, stepped⟩ := confined.step (.refl inOrder places)
      intro call among
      rcases List.mem_cons.1 among with rfl | among
      · exact confined.call
      · rcases ih _ goesOn stepped.agree.inOrder call among with isRead | writes
        · exact .inl isRead
        · exact .inr (writes.mono stepped.fewer)

theorem spares_of_interleaved {p : ClientM α} {q : ClientM β} {x : α} {y : β}
    {others : List ObjectPlace} (turns : Interleaved answer s p q x y after)
    (confined : Confined places p) (confined' : Confined others q) (inOrder : s.InOrder)
    (fewer : places ⊆ wider) (fewer' : others ⊆ wider) : Spares wider s after := by
  induction turns generalizing places others with
  | done state x y => exact .of_objects rfl
  | left onwards ih =>
      obtain ⟨rest, goesOn, -, stepped⟩ := confined.step (.refl inOrder places)
      have first := stepped.spares.mono fewer
      exact first.trans
        (ih goesOn confined' stepped.agree.inOrder (List.Subset.trans stepped.fewer fewer) fewer')
  | right onwards ih =>
      obtain ⟨rest, goesOn, -, stepped⟩ := confined'.step (.refl inOrder others)
      have first := stepped.spares.mono fewer'
      exact first.trans
        (ih confined goesOn stepped.agree.inOrder fewer (List.Subset.trans stepped.fewer fewer'))

/-- The first of two dialogues that are confined to places apart comes to what it comes to
alone, and so do the objects that the other one leaves alone. -/
theorem interleaved_alone {p : ClientM α} {q : ClientM β} {x : α} {y : β}
    {others : List ObjectPlace} (turns : Interleaved answer s p q x y after)
    (confined : Confined places p) (confined' : Confined others q)
    (apart : ∀ place ∈ places, Outside others place) (agree : AgreeOn places s t) :
    x = (p.run answer t).1 ∧ ∀ at_, Outside others at_ → t.get? at_ = s.get? at_ →
      AlikeSince (s.get? at_) (after.get? at_) ((p.run answer t).2.get? at_) := by
  induction turns generalizing places others t with
  | done state x y =>
      refine ⟨rfl, ?_⟩
      intro at_ _ same
      rw [Dialogue.run, same]
      rfl
  | @left state after query next other x y onwards ih =>
      obtain ⟨rest, goesOn, sameNext, stepped⟩ := confined.step agree
      obtain ⟨value, objects⟩ := ih goesOn confined'
        (fun place among => apart place (stepped.fewer among)) stepped.agree
      simp only [Dialogue.run, sameNext]
      refine ⟨value, ?_⟩
      intro at_ outside same
      rcases stepped.alike at_ same with ⟨kept, kept'⟩ | ⟨left_, alike⟩
      · rw [← kept]
        exact objects at_ outside (by rw [kept', kept, same])
      · -- the place has been written at, and nobody comes back to it
        have kept := (spares_of_interleaved onwards goesOn confined' stepped.agree.inOrder
          (List.subset_append_left _ _) (List.subset_append_right _ _)).elsewhere at_
            (left_.append outside)
        have kept' := (goesOn.spares stepped.agree.inOrder').elsewhere at_ left_
        rw [kept, kept']
        exact alike
  | @right state after query next other x y onwards ih =>
      obtain ⟨rest, goesOn, -, stepped⟩ := confined'.step (.refl agree.inOrder others)
      have still : AgreeOn places (state.answer query).2 t := by
        refine ⟨stepped.agree.inOrder, agree.inOrder', ?_, ?_⟩
        · rw [(answer_change state query).failures, agree.failures]
        · intro place among
          rw [stepped.spares.elsewhere place (apart place among), agree.objects place among]
      obtain ⟨value, objects⟩ := ih confined goesOn
        (fun place among => (apart place among).mono stepped.fewer) still
      refine ⟨value, ?_⟩
      intro at_ outside same
      have kept := stepped.spares.elsewhere at_ outside
      rw [← kept]
      exact objects at_ (outside.mono stepped.fewer) (by rw [kept, same])

/-! ## Any order -/

/-- The end of two dialogues that have taken turns is that of one after the other, up to what
the store assigns. -/
structure SameInTurn (s : Store) (p : ClientM α) (q : ClientM β) (x : α) (y : β)
    (after : Store) : Prop where
  first : x = (p.run answer s).1
  second : y = (q.run answer (p.run answer s).2).1
  objects : ∀ at_, AlikeSince (s.get? at_) (after.get? at_)
    ((q.run answer (p.run answer s).2).2.get? at_)

/-- Dialogues that are confined to places apart come to the same as one after the other,
however they take turns. -/
theorem sameInTurn_of_confined {p : ClientM α} {q : ClientM β} {x : α} {y : β}
    {others : List ObjectPlace} (turns : Interleaved answer s p q x y after)
    (confined : Confined places p) (confined' : Confined others q)
    (apart : ∀ place ∈ places, Outside others place) (inOrder : s.InOrder) :
    SameInTurn s p q x y after := by
  have apart' : ∀ place ∈ others, Outside places place := by
    intro place among other among'
    rw [← apart other among' place among]
    exact BEq.comm
  obtain ⟨value, objects⟩ := interleaved_alone turns confined confined' apart (.refl inOrder places)
  obtain ⟨value', objects'⟩ :=
    interleaved_alone turns.symm confined' confined apart' (.refl inOrder others)
  have inTurn : Interleaved answer s p q _ _ _ := .inTurn p q s
  obtain ⟨-, ordered⟩ := interleaved_alone inTurn confined confined' apart (.refl inOrder places)
  obtain ⟨second, ordered'⟩ :=
    interleaved_alone inTurn.symm confined' confined apart' (.refl inOrder others)
  refine ⟨value, value'.trans second.symm, ?_⟩
  intro at_
  by_cases outside : Outside others at_
  · exact (objects at_ outside rfl).trans (ordered at_ outside rfl).symm
  · have outside' : Outside places at_ := by
      intro place among
      rw [Bool.eq_false_iff]
      intro agree
      exact outside ((apart place among).congr agree)
    exact (objects' at_ outside' rfl).trans (ordered' at_ outside' rfl).symm

end AppOperator
