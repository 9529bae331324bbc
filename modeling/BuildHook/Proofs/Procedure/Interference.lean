import BuildHook.Procedure

/-!
# Procedures among others

A procedure whose questions are answered one at a time, while others change the state before each of
them. What others may do, and what each answer may do to them, are two relations of states.

## Main results

`Withstands.andThen` is about two procedures in a row, `Withstands.run` about a procedure that is
left alone.
-/

namespace BuildHook.Procedure

variable {Q : Type} {A : Q → Type} {α β σ : Type}

/-- Gives the answer to every question at once. -/
def atOnce (answer : (q : Q) → σ → A q × σ) (q : Q) (state : σ) : Option (A q) × σ :=
  (some (answer q state).1, (answer q state).2)

/-- Whatever others do before each question, as far as they keep to `rely`, a procedure ends with a
result and in a state as `post` says, and each of its answers keeps to `guar`. -/
def Withstands (rely guar : σ → σ → Prop) (answer : (q : Q) → σ → A q × σ)
    (post : α → σ → Prop) : Procedure Q A α → σ → Prop
  | .done result, state => post result state
  | .ask q next, state => ∀ now, rely state now →
    guar now (answer q now).2
    ∧ (next (answer q now).1).Withstands rely guar answer post (answer q now).2

namespace Withstands

variable {rely guar : σ → σ → Prop} {answer : (q : Q) → σ → A q × σ} {state : σ}

theorem mono {p : Procedure Q A α} {post post' : α → σ → Prop}
    (withstands : p.Withstands rely guar answer post state)
    (weaker : ∀ result now, post result now → post' result now) :
    p.Withstands rely guar answer post' state := by
  induction p generalizing state with
  | done result => exact weaker result state withstands
  | ask q next ih =>
    intro now others
    obtain ⟨kept, rest⟩ := withstands now others
    exact ⟨kept, ih _ rest⟩

/-- What comes of two procedures in a row comes of the second one after the first. -/
theorem andThen {p : Procedure Q A α} {f : α → Procedure Q A β} {mid : α → σ → Prop}
    {post : β → σ → Prop} (first : p.Withstands rely guar answer mid state)
    (second : ∀ result now, mid result now → (f result).Withstands rely guar answer post now) :
    (p.andThen f).Withstands rely guar answer post state := by
  induction p generalizing state with
  | done result => exact second result state first
  | ask q next ih =>
    intro now others
    obtain ⟨kept, rest⟩ := first now others
    exact ⟨kept, ih _ rest⟩

/-- Before a question others may do more. -/
theorem later {q : Q} {next : A q → Procedure Q A α} {post : α → σ → Prop} {now : σ}
    (trans : ∀ {first second third : σ}, rely first second → rely second third →
      rely first third) (others : rely state now)
    (withstands : (ask q next).Withstands rely guar answer post state) :
    (ask q next).Withstands rely guar answer post now :=
  fun last more => withstands last (trans others more)

/-- A procedure that is left alone comes to what it comes to among others. -/
theorem run {p : Procedure Q A α} {post : α → σ → Prop} (refl : ∀ state, rely state state)
    (withstands : p.Withstands rely guar answer post state) :
    post (p.run answer state).1 (p.run answer state).2 := by
  induction p generalizing state with
  | done result => exact withstands
  | ask q next ih => exact ih _ (withstands state (refl state)).2

end Withstands

end BuildHook.Procedure
