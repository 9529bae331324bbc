import BuildHook.Procedure

/-!
# Histories of procedures

What a procedure has asked and been answered, in order. A history leads from a procedure to what is
left of it; when nothing is left but a result, it is the history of a whole run. Every handler
produces such a history, so what holds of all histories holds whatever the surroundings answer.
-/

namespace BuildHook.Procedure

/-- A question with its answer. -/
structure Exchange (Q : Type) (A : Q → Type) where
  question : Q
  answer : A question

variable {Q : Type} {A : Q → Type} {α β σ : Type}

/-- The questions and answers of a run, in order. -/
def history (answer : (q : Q) → σ → A q × σ) : Procedure Q A α → σ → List (Exchange Q A)
  | .done _, _ => []
  | .ask q next, state =>
    let (reply, state) := answer q state
    ⟨q, reply⟩ :: (next reply).history answer state

/-- The exchanges that lead from a procedure to what is left of it. -/
inductive Leads : Procedure Q A α → List (Exchange Q A) → Procedure Q A α → Prop
  | refl (p) : Leads p [] p
  | ask {q next reply h rest} (tail : Leads (next reply) h rest) :
      Leads (.ask q next) (⟨q, reply⟩ :: h) rest

/-- Whether all questions that a procedure may ask are of a kind. -/
def Asks (kind : Q → Prop) : Procedure Q A α → Prop
  | .done _ => True
  | .ask q next => kind q ∧ ∀ reply, (next reply).Asks kind

/-- The history of a run leads to its result. -/
theorem leads_history (answer : (q : Q) → σ → A q × σ) (p : Procedure Q A α) (state : σ) :
    Leads p (p.history answer state) (.done (p.run answer state).1) := by
  induction p generalizing state with
  | done result => exact .refl _
  | ask q next ih => exact .ask (ih _ _)

/-- A handler has answered some questions of a procedure, and is in a state in which it goes on with
what is left of it. -/
structure Reaches (answer : (q : Q) → σ → A q × σ) (p : Procedure Q A α) (state : σ)
    (h : List (Exchange Q A)) (rest : Procedure Q A α) (after : σ) : Prop where
  history : p.history answer state = h ++ rest.history answer after
  run : p.run answer state = rest.run answer after

namespace Reaches

variable {answer : (q : Q) → σ → A q × σ} {p q r : Procedure Q A α} {h h' : List (Exchange Q A)}
  {state after last : σ}

theorem refl (p : Procedure Q A α) (state : σ) : Reaches answer p state [] p state := ⟨rfl, rfl⟩

theorem ask (answer : (q : Q) → σ → A q × σ) (q : Q) (next : A q → Procedure Q A α)
    (state : σ) :
    Reaches answer (.ask q next) state [⟨q, (answer q state).1⟩] (next (answer q state).1)
      (answer q state).2 := ⟨rfl, rfl⟩

theorem append (first : Reaches answer p state h q after)
    (second : Reaches answer q after h' r last) : Reaches answer p state (h ++ h') r last where
  history := by rw [first.history, second.history, List.append_assoc]
  run := first.run.trans second.run

end Reaches

theorem Leads.eq_of_done {a : α} {h : List (Exchange Q A)} {rest : Procedure Q A α}
    (hl : Leads (.done a) h rest) : h = [] ∧ rest = .done a := by
  cases hl with
  | refl => exact ⟨rfl, rfl⟩

theorem Leads.eq_of_nil {p rest : Procedure Q A α} (hl : Leads p [] rest) : rest = p := by
  cases hl with
  | refl => rfl

theorem Leads.append {p q r : Procedure Q A α} {h h' : List (Exchange Q A)}
    (first : Leads p h q) (second : Leads q h' r) : Leads p (h ++ h') r := by
  induction first with
  | refl => exact second
  | ask tail ih => exact .ask (ih second)

/-- A whole run of two procedures in a row is a run of the first and then one of the second. -/
theorem leads_andThen_iff (p : Procedure Q A α) (f : α → Procedure Q A β)
    (h : List (Exchange Q A)) (b : β) :
    Leads (p.andThen f) h (.done b) ↔
      ∃ a h₁ h₂, h = h₁ ++ h₂ ∧ Leads p h₁ (.done a) ∧ Leads (f a) h₂ (.done b) := by
  constructor
  · intro hl
    induction p generalizing h with
    | done a => exact ⟨a, [], h, rfl, .refl _, hl⟩
    | ask q next ih =>
      cases hl with
      | @ask _ _ reply h _ tail =>
        obtain ⟨a, h₁, h₂, rfl, hp, hf⟩ := ih reply h tail
        exact ⟨a, ⟨q, reply⟩ :: h₁, h₂, rfl, .ask hp, hf⟩
  · rintro ⟨a, h₁, h₂, rfl, hp, hf⟩
    induction p generalizing h₁ with
    | done a' =>
      obtain ⟨rfl, ha⟩ := hp.eq_of_done
      cases ha
      exact hf
    | ask q next ih =>
      cases hp with
      | ask tail => exact .ask (ih _ _ tail)

/-- A procedure that has asked its one question returns the answer. -/
theorem leads_question_iff (q : Q) (h : List (Exchange Q A)) (reply : A q) :
    Leads (question q) h (.done reply) ↔ h = [⟨q, reply⟩] := by
  constructor
  · intro hl
    cases hl with
    | ask tail =>
      obtain ⟨rfl, hr⟩ := tail.eq_of_done
      cases hr
      rfl
  · rintro rfl
    exact .ask (.refl _)

theorem Asks.mono {kind other : Q → Prop} (weaker : ∀ q, kind q → other q)
    {p : Procedure Q A α} (hp : p.Asks kind) : p.Asks other := by
  induction p with
  | done a => trivial
  | ask q next ih => exact ⟨weaker q hp.1, fun reply => ih reply (hp.2 reply)⟩

theorem Asks.andThen {kind : Q → Prop} {p : Procedure Q A α} {f : α → Procedure Q A β}
    (hp : p.Asks kind) (hf : ∀ a, (f a).Asks kind) : (p.andThen f).Asks kind := by
  induction p with
  | done a => exact hf a
  | ask q next ih => exact ⟨hp.1, fun reply => ih reply (hp.2 reply)⟩

/-- Every question in a history is one that the procedure may ask. -/
theorem Asks.forall_mem {kind : Q → Prop} {p rest : Procedure Q A α} {h : List (Exchange Q A)}
    (hp : p.Asks kind) (hl : Leads p h rest) : ∀ x ∈ h, kind x.question := by
  induction hl with
  | refl => exact fun x hx => absurd hx List.not_mem_nil
  | ask tail ih =>
    intro x hx
    rcases List.mem_cons.mp hx with rfl | hx
    · exact hp.1
    · exact ih (hp.2 _) x hx

end BuildHook.Procedure
