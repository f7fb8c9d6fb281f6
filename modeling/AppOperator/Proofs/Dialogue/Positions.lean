import AppOperator.Dialogue

/-!
# Positions in a dialogue

A dialogue that has been given some answers is another dialogue, a position of the
first one.  What holds at every position (`Dialogue.Everywhere`) is shown of the
parts of a dialogue; two dialogues with one answerer may take turns in any order
(`Dialogue.Interleaved`).
-/

set_option autoImplicit false

namespace AppOperator

namespace Dialogue

variable {Q A : Type} {α β : Type}

/-- What a dialogue comes to when it is given some answers. -/
inductive LeadsTo : Dialogue Q A α → Dialogue Q A α → Prop where
  | here (dialogue : Dialogue Q A α) : LeadsTo dialogue dialogue
  | answered {query : Q} {next : A → Dialogue Q A α} {position : Dialogue Q A α} (answer : A)
      (onwards : LeadsTo (next answer) position) : LeadsTo (.ask query next) position

/-- A property of each query together with what follows it. -/
def Everywhere (P : Q → (A → Dialogue Q A α) → Prop) : Dialogue Q A α → Prop
  | .done _ => True
  | .ask query next => P query next ∧ ∀ answer, (next answer).Everywhere P

namespace Everywhere

variable {P P' : Q → (A → Dialogue Q A α) → Prop} {dialogue : Dialogue Q A α}

theorem at_position {query : Q} {next : A → Dialogue Q A α} (everywhere : dialogue.Everywhere P)
    (leads : LeadsTo dialogue (.ask query next)) : P query next := by
  generalize reached : Dialogue.ask query next = position at leads
  induction leads with
  | here dialogue =>
      subst reached
      exact everywhere.1
  | answered answer onwards ih => exact ih (everywhere.2 answer) reached

theorem mono (everywhere : dialogue.Everywhere P) (implies : ∀ query next, P query next →
    P' query next) : dialogue.Everywhere P' := by
  induction dialogue with
  | done value => trivial
  | ask query next ih =>
      refine ⟨implies query next everywhere.1, ?_⟩
      intro answer
      exact ih answer (everywhere.2 answer)

/-- What holds in both parts of a dialogue, of the first with the second behind it. -/
theorem bind {P : Q → (A → Dialogue Q A β) → Prop} {f : α → Dialogue Q A β}
    (first : dialogue.Everywhere fun query next => P query fun answer => (next answer).bind f)
    (second : ∀ value, (f value).Everywhere P) : (dialogue.bind f).Everywhere P := by
  induction dialogue with
  | done value => exact second value
  | ask query next ih =>
      refine ⟨first.1, ?_⟩
      intro answer
      exact ih answer (first.2 answer)

end Everywhere

/-- Two dialogues take turns with one answerer and come to their values. -/
inductive Interleaved {σ : Type} (answer : σ → Q → A × σ) :
    σ → Dialogue Q A α → Dialogue Q A β → α → β → σ → Prop where
  | done (state : σ) (x : α) (y : β) : Interleaved answer state (.done x) (.done y) x y state
  | left {state after : σ} {query : Q} {next : A → Dialogue Q A α} {other : Dialogue Q A β} {x : α}
      {y : β} (onwards : Interleaved answer (answer state query).2 (next (answer state query).1)
        other x y after) : Interleaved answer state (.ask query next) other x y after
  | right {state after : σ} {query : Q} {next : A → Dialogue Q A β} {other : Dialogue Q A α} {x : α}
      {y : β} (onwards : Interleaved answer (answer state query).2 other
        (next (answer state query).1) x y after) : Interleaved answer state other (.ask query next)
          x y after

namespace Interleaved

variable {σ : Type} {answer : σ → Q → A × σ} {p : Dialogue Q A α} {q : Dialogue Q A β} {x : α}
  {y : β} {state after : σ}

theorem symm (turns : Interleaved answer state p q x y after) :
    Interleaved answer state q p y x after := by
  induction turns with
  | done state x y => exact .done state y x
  | left onwards ih => exact .right ih
  | right onwards ih => exact .left ih

/-- One of them may wait until the other one is done. -/
theorem inTurn (p : Dialogue Q A α) (q : Dialogue Q A β) (state : σ) :
    Interleaved answer state p q (p.run answer state).1 (q.run answer (p.run answer state).2).1
      (q.run answer (p.run answer state).2).2 := by
  induction p generalizing state with
  | done value =>
      induction q generalizing state with
      | done other => exact .done state value other
      | ask query next ih => exact .right (ih _ _)
  | ask query next ih => exact .left (ih _ _)

end Interleaved

/-- Two dialogues take turns as they are told.  Who is done waits, and in the end the first
one goes on before the second. -/
def weave {σ : Type} (answer : σ → Q → A × σ) :
    List Bool → σ → Dialogue Q A α → Dialogue Q A β → α × β × σ
  | true :: turns, state, .ask query next, q =>
      weave answer turns (answer state query).2 (next (answer state query).1) q
  | true :: turns, state, .done x, q => weave answer turns state (.done x) q
  | false :: turns, state, p, .ask query next =>
      weave answer turns (answer state query).2 p (next (answer state query).1)
  | false :: turns, state, p, .done y => weave answer turns state p (.done y)
  | [], state, p, q =>
      let (x, middle) := p.run answer state
      let (y, after) := q.run answer middle
      (x, y, after)

/-- Whatever they are told, they come to an end. -/
theorem interleaved_weave {σ : Type} (answer : σ → Q → A × σ) (turns : List Bool) (state : σ)
    (p : Dialogue Q A α) (q : Dialogue Q A β) : Interleaved answer state p q
      (weave answer turns state p q).1 (weave answer turns state p q).2.1
      (weave answer turns state p q).2.2 := by
  induction turns generalizing state p q with
  | nil => exact .inTurn p q state
  | cons turn turns ih =>
      cases turn with
      | true =>
          cases p with
          | done x => exact ih state (.done x) q
          | ask query next => exact .left (ih _ _ q)
      | false =>
          cases q with
          | done y => exact ih state p (.done y)
          | ask query next => exact .right (ih _ p _)

end Dialogue

end AppOperator
