/-!
# Dialogues

A dialogue is a computation that asks one query after another and goes on with
each answer.  What a reconciliation pass or a command does is a dialogue; who
answers is left open, so that the same pass runs against a store, against a
store that others write to between two queries, and in turns with other passes.
-/

set_option autoImplicit false

namespace AppOperator

universe u

/-- A computation over queries in `Q` with answers in `A`. -/
inductive Dialogue (Q A : Type) (α : Type u) where
  | done (value : α)
  | ask (query : Q) (next : A → Dialogue Q A α)

namespace Dialogue

variable {Q A : Type} {α β : Type}

/-- Goes on with the value of the first dialogue. -/
def bind : Dialogue Q A α → (α → Dialogue Q A β) → Dialogue Q A β
  | .done value, f => f value
  | .ask query next, f => .ask query fun answer => (next answer).bind f

instance : Monad (Dialogue Q A) where
  pure := .done
  bind := bind

/-- Runs a dialogue against one that answers and keeps a state. -/
def run {σ : Type} (answer : σ → Q → A × σ) : Dialogue Q A α → σ → α × σ
  | .done value, state => (value, state)
  | .ask query next, state =>
      let (reply, after) := answer state query
      (next reply).run answer after

/-- The queries of a run, in order. -/
def queries {σ : Type} (answer : σ → Q → A × σ) : Dialogue Q A α → σ → List Q
  | .done _, _ => []
  | .ask query next, state =>
      let (reply, after) := answer state query
      query :: (next reply).queries answer after

@[simp] theorem bind_done (value : α) (f : α → Dialogue Q A β) :
    (Dialogue.done value : Dialogue Q A α).bind f = f value := rfl

@[simp] theorem bind_ask (q : Q) (next : A → Dialogue Q A α) (f : α → Dialogue Q A β) :
    (Dialogue.ask q next).bind f = .ask q fun answer => (next answer).bind f := rfl

/-- Running a dialogue and then the one that its value leads to. -/
theorem run_bind {σ : Type} (answer : σ → Q → A × σ) (first : Dialogue Q A α)
    (f : α → Dialogue Q A β) (state : σ) :
    (first.bind f).run answer state =
      (f (first.run answer state).1).run answer (first.run answer state).2 := by
  induction first generalizing state with
  | done value => rfl
  | ask q next tail => simp only [bind_ask, run, tail]

/-- The queries of a dialogue come before those of the one that its value leads to. -/
theorem queries_bind {σ : Type} (answer : σ → Q → A × σ) (first : Dialogue Q A α)
    (f : α → Dialogue Q A β) (state : σ) :
    (first.bind f).queries answer state = first.queries answer state ++
      (f (first.run answer state).1).queries answer (first.run answer state).2 := by
  induction first generalizing state with
  | done value => rfl
  | ask q next tail => simp only [bind_ask, queries, run, tail, List.cons_append]

end Dialogue

end AppOperator
