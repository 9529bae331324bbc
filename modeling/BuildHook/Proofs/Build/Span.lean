import BuildHook.Proofs.Build.Requests

/-!
# The time in a workspace

A build works only between entering its workspace and leaving it, and whatever the answers are, it
leaves before it ends.

## Main results

`run_guarded` says so of every build; `Guarded.leaves` reads it off the history of a build that is
in its workspace.
-/

namespace BuildHook.Build

open Procedure

/-- The workspace of a push, unless the name of the repository is refused. -/
def workspaceOf (settings : Settings) (push : Push) : Option String :=
  Workspace.dir? settings.cacheRoot push.fullName

/-- Whether a build is in its workspace after a request, if it may make the request where it is:
it works inside only, and does all else outside. -/
def Request.span (workspace : Option String) : Request → Bool → Option Bool
  | .enter place, inside => if workspace = some place ∧ inside = false then some true else none
  | .leave place, inside => if workspace = some place ∧ inside = true then some false else none
  | r, inside => if (r.kind == .work) = inside then some inside else none

/-- Whether steps keep to the rule, when they begin inside or outside, and end outside. -/
def Guarded {α : Type} (workspace : Option String) : Steps α → Bool → Prop
  | .done _, inside => inside = false
  | .ask r next, inside =>
    ∃ later, r.span workspace inside = some later ∧ ∀ reply, Guarded workspace (next reply) later

variable {α β : Type} {workspace : Option String} {inside : Bool}

theorem span_of_kind {r : Request} (hr : r.kind ≠ .lock) :
    r.span workspace inside = if (r.kind == .work) = inside then some inside else none := by
  cases r <;> first | rfl | exact absurd rfl hr

theorem span_enter {place : String} {later : Bool}
    (hs : (Request.enter place).span workspace inside = some later) :
    workspace = some place ∧ inside = false ∧ later = true := by
  simp only [Request.span] at hs
  split at hs
  · next hp => exact ⟨hp.1, hp.2, (Option.some.inj hs).symm⟩
  · cases hs

theorem span_leave {place : String} {later : Bool}
    (hs : (Request.leave place).span workspace inside = some later) :
    workspace = some place ∧ inside = true ∧ later = false := by
  simp only [Request.span] at hs
  split at hs
  · next hp => exact ⟨hp.1, hp.2, (Option.some.inj hs).symm⟩
  · cases hs

/-- Only the lock changes whether a build is in its workspace. -/
theorem span_other {r : Request} {later : Bool} (hr : r.kind ≠ .lock)
    (hs : r.span workspace inside = some later) :
    later = inside ∧ (inside = true ↔ r.kind = .work) := by
  rw [span_of_kind hr] at hs
  split at hs
  · next hk =>
    refine ⟨(Option.some.inj hs).symm, ?_⟩
    rw [← hk, beq_iff_eq]
  · cases hs

/-- No steps keep to the rule both from inside and from outside. -/
theorem Guarded.unique {steps : Steps α} {first second : Bool}
    (hf : Guarded workspace steps first) (hs : Guarded workspace steps second) :
    first = second := by
  cases steps with
  | done a => exact hf.trans hs.symm
  | ask r next =>
    obtain ⟨later, hf, -⟩ := hf
    obtain ⟨later', hs, -⟩ := hs
    by_cases hr : r.kind = .lock
    · cases r with
      | enter place => rw [(span_enter hf).2.1, (span_enter hs).2.1]
      | leave place => rw [(span_leave hf).2.1, (span_leave hs).2.1]
      | _ => cases hr
    · rw [Bool.eq_iff_iff, (span_other hr hf).2, (span_other hr hs).2]

theorem Guarded.andThen {p : Steps α} {f : α → Steps β} (hp : Guarded workspace p inside)
    (hf : ∀ a, Guarded workspace (f a) false) : Guarded workspace (p.andThen f) inside := by
  induction p generalizing inside with
  | done a => exact hp ▸ hf a
  | ask r next ih =>
    obtain ⟨later, hs, hn⟩ := hp
    exact ⟨later, hs, fun reply => ih reply (hn reply)⟩

/-- Work inside is followed by steps that begin inside. -/
theorem guarded_of_work {p : Steps α} {f : α → Steps β} (hp : p.Asks fun r => r.kind = .work)
    (hf : ∀ a, Guarded workspace (f a) true) : Guarded workspace (p.andThen f) true := by
  induction p with
  | done a => exact hf a
  | ask r next ih =>
    have hr : r.kind = .work := hp.1
    have inside : r.span workspace true = some true := by
      rw [span_of_kind (by rw [hr]; decide), hr]
      rfl
    exact ⟨true, inside, fun reply => ih reply (hp.2 reply)⟩

theorem work_guarded (settings : Settings) (push : Push) (project : ProjectRecord)
    (key : Option StagedKey) :
    Guarded (workspaceOf settings push) (work settings push project key) false := by
  unfold work workspaceOf
  cases Workspace.dir? settings.cacheRoot push.fullName with
  | none => rfl
  | some dest =>
    refine ⟨true, if_pos ⟨rfl, rfl⟩, ?_⟩
    intro entered
    show Guarded (some dest) ((inWorkspace settings push project key dest).run.andThen _) true
    apply guarded_of_work
      ((inWorkspace_asks settings push project key dest).mono fun _ inside => inside.kind_eq)
    intro result
    exact ⟨false, if_pos ⟨rfl, rfl⟩, fun _ => rfl⟩

theorem reported_guarded (settings : Settings) (push : Push) (project : ProjectRecord)
    (key : Option StagedKey) :
    Guarded (workspaceOf settings push) (reported settings push project key) false :=
  ⟨false, rfl, fun _ => (work_guarded settings push project key).andThen fun _ =>
    ⟨false, rfl, fun _ => rfl⟩⟩

/-- Every build works in its workspace only, and leaves it before it ends. -/
theorem run_guarded (settings : Settings) (push : Push) (project : ProjectRecord) :
    Guarded (workspaceOf settings push) (run settings push project) false := by
  unfold run
  cases project.usableKey with
  | none => exact reported_guarded settings push project none
  | some key =>
    refine ⟨false, rfl, ?_⟩
    intro staging
    cases staging with
    | error cause => rfl
    | ok staged =>
      exact (reported_guarded settings push project (some staged)).andThen fun _ =>
        ⟨false, rfl, fun _ => rfl⟩

/-- Steps that begin inside do nothing but work until they leave, whatever the answers are. -/
theorem Guarded.leaves {p : Steps α} {h : List Exchange} {a : α}
    (hp : Guarded workspace p true) (hl : Leads p h (.done a)) :
    ∃ place inner outer, workspace = some place ∧ h = inner ++ ⟨.leave place, ()⟩ :: outer
      ∧ ∀ x ∈ inner, x.question.kind = .work := by
  generalize hd : Procedure.done a = last at hl
  induction hl with
  | refl p =>
    subst hd
    cases hp
  | @ask r next reply h rest tail ih =>
    obtain ⟨later, hs, hn⟩ := hp
    by_cases hr : r.kind = .lock
    · cases r with
      | enter place => cases (span_enter hs).2.1
      | leave place =>
        exact ⟨place, [], h, (span_leave hs).1, rfl, by simp⟩
      | _ => cases hr
    · obtain ⟨rfl, hw⟩ := span_other hr hs
      obtain ⟨place, inner, outer, hv, rfl, hi⟩ := ih (hn reply) hd
      refine ⟨place, ⟨r, reply⟩ :: inner, outer, hv, rfl, ?_⟩
      intro x hx
      rcases List.mem_cons.mp hx with rfl | hx
      · exact hw.mp rfl
      · exact hi x hx

end BuildHook.Build
