/-!
# Procedures

A procedure computes a result by asking its surroundings questions one at a time; each next question
may depend on the answers so far and on nothing else. The surroundings are left open: a handler with
a state may answer all questions, or some of them while the procedure waits on the others.
-/

namespace BuildHook

/-- A procedure that asks questions of type `Q`, whose answers have the types `A`. -/
inductive Procedure (Q : Type) (A : Q → Type) (α : Type) where
  | done (result : α)
  | ask (question : Q) (next : A question → Procedure Q A α)

namespace Procedure

variable {Q : Type} {A : Q → Type} {α β σ : Type}

/-- Goes on with a second procedure, which knows the result of the first. -/
def andThen (first : Procedure Q A α) (second : α → Procedure Q A β) : Procedure Q A β :=
  match first with
  | .done result => second result
  | .ask question next => .ask question fun answer => (next answer).andThen second

instance : Monad (Procedure Q A) where
  pure := .done
  bind := andThen

/-- The procedure that asks one question and returns its answer. -/
def question (q : Q) : Procedure Q A (A q) := .ask q .done

/-- Answers every question, with a state that changes from answer to answer. -/
def run (answer : (q : Q) → σ → A q × σ) : Procedure Q A α → σ → α × σ
  | .done result, state => (result, state)
  | .ask q next, state =>
    let (reply, state) := answer q state
    (next reply).run answer state

/-- Asks the next question once, and goes on if it has an answer already. Asking may change the
state even if it has none. -/
def step (answer? : (q : Q) → σ → Option (A q) × σ) :
    Procedure Q A α → σ → Procedure Q A α × σ
  | .done result, state => (.done result, state)
  | .ask q next, state =>
    match answer? q state with
    | (some reply, state) => (next reply, state)
    | (none, state) => (.ask q next, state)

/-- Answers questions up to the first one that has no answer yet. Returns what is left of the
procedure. -/
def advance (answer? : (q : Q) → σ → Option (A q) × σ) :
    Procedure Q A α → σ → Procedure Q A α × σ
  | .done result, state => (.done result, state)
  | .ask q next, state =>
    match answer? q state with
    | (some reply, state) => (next reply).advance answer? state
    | (none, state) => (.ask q next, state)

/-- Replaces every question by a procedure that finds its answer. -/
def expand {R : Type} {B : R → Type} (find : (q : Q) → Procedure R B (A q)) :
    Procedure Q A α → Procedure R B α
  | .done result => .done result
  | .ask q next => (find q).andThen fun reply => (next reply).expand find

theorem ask_andThen (q : Q) (next : A q → Procedure Q A α) (second : α → Procedure Q A β) :
    (Procedure.ask q next).andThen second = .ask q fun answer => (next answer).andThen second :=
  rfl

/-- Nothing is asked behind a procedure that only returns. -/
theorem andThen_done (p : Procedure Q A α) : p.andThen .done = p := by
  induction p with
  | done result => rfl
  | ask q next ih => simp only [ask_andThen, ih]

/-- Running two procedures in a row hands the state on. -/
theorem run_andThen (answer : (q : Q) → σ → A q × σ) (p : Procedure Q A α)
    (f : α → Procedure Q A β) (state : σ) :
    (p.andThen f).run answer state
      = (f (p.run answer state).1).run answer (p.run answer state).2 := by
  induction p generalizing state with
  | done result => rfl
  | ask q next ih => simp only [ask_andThen, run, ih]

/-- One question leads on if it is answered. -/
theorem step_ask (answer? : (q : Q) → σ → Option (A q) × σ) (q : Q)
    (next : A q → Procedure Q A α) (state : σ) :
    (ask q next).step answer? state
      = ((answer? q state).1.elim (.ask q next) next, (answer? q state).2) := by
  simp only [step]
  split <;> simp_all

/-- What every single step keeps is kept by going on as far as possible. -/
theorem advance_keeps (answer? : (q : Q) → σ → Option (A q) × σ)
    (kept : Procedure Q A α × σ → Prop)
    (step_keeps : ∀ p state, kept (p, state) → kept (p.step answer? state))
    (p : Procedure Q A α) (state : σ) (start : kept (p, state)) :
    kept (p.advance answer? state) := by
  induction p generalizing state with
  | done result => exact start
  | ask q next ih =>
    have first := step_keeps _ _ start
    simp only [step, advance] at first ⊢
    split
    · next reply after found =>
      rw [found] at first
      exact ih reply after first
    · next after found =>
      rw [found] at first
      exact first

end Procedure

end BuildHook
