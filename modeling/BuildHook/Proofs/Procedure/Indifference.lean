import BuildHook.Procedure.History

/-!
# Answers that make no difference

A procedure may ask questions whose answers it does not look at. Handlers that differ in these
answers alone run it to the same result, and through the same questions.
-/

namespace BuildHook.Procedure

variable {Q : Type} {A : Q → Type} {α β σ : Type}

/-- Whether a procedure goes on in the same way whatever the answers to questions of a kind are. -/
def Ignores (kind : Q → Prop) : Procedure Q A α → Prop
  | .done _ => True
  | .ask q next => (kind q → ∀ a b, next a = next b) ∧ ∀ a, (next a).Ignores kind

/-- What is not asked is ignored. -/
theorem Asks.ignores {kind : Q → Prop} {p : Procedure Q A α}
    (hp : p.Asks fun q => ¬ kind q) : p.Ignores kind := by
  induction p with
  | done a => trivial
  | ask q next ih => exact ⟨fun hk => absurd hk hp.1, fun a => ih a (hp.2 a)⟩

theorem Ignores.andThen {kind : Q → Prop} {p : Procedure Q A α} {f : α → Procedure Q A β}
    (hp : p.Ignores kind) (hf : ∀ a, (f a).Ignores kind) : (p.andThen f).Ignores kind := by
  induction p with
  | done a => exact hf a
  | ask q next ih =>
    constructor
    · intro hk a b
      show (next a).andThen f = (next b).andThen f
      rw [hp.1 hk a b]
    · intro a
      exact ih a (hp.2 a)

/-- Handlers that differ only in answers that are ignored give the same run: result and last state
are the same, and so are all questions and all answers that are not ignored. -/
theorem Ignores.run_eq {kind : Q → Bool} {first second : (q : Q) → σ → A q × σ}
    (agree : ∀ q, kind q = false → first q = second q)
    (states : ∀ q state, (first q state).2 = (second q state).2)
    {p : Procedure Q A α} (hp : p.Ignores fun q => kind q = true) (state : σ) :
    p.run first state = p.run second state
    ∧ (p.history first state).map (·.question) = (p.history second state).map (·.question)
    ∧ (p.history first state).filter (fun x => !kind x.question)
      = (p.history second state).filter fun x => !kind x.question := by
  induction p generalizing state with
  | done a => exact ⟨rfl, rfl, rfl⟩
  | ask q next ih =>
    have tail := ih (second q state).1 (hp.2 _) (second q state).2
    cases hk : kind q with
    | false =>
      simp only [run, history, agree q hk, List.map_cons, List.filter_cons, hk]
      exact ⟨tail.1, by rw [tail.2.1], by rw [tail.2.2]⟩
    | true =>
      have same : next (first q state).1 = next (second q state).1 := hp.1 hk _ _
      simp only [run, history, same, states q state, List.map_cons, List.filter_cons, hk]
      exact ⟨tail.1, by rw [tail.2.1], tail.2.2⟩

end BuildHook.Procedure
