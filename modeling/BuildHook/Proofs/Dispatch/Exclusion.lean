import BuildHook.Proofs.Dispatch.Order
import BuildHook.Proofs.Path.Join

/-!
# One build at a time in a workspace

No two builds are in one workspace at a time, in whatever order the builds of a pool go on and
whatever they are answered. It follows from the order of the lines: two builds that are inside would
both be the first in one line.

## Main results

`Course.run_exclusive` says what the builds of a pool can rely on.
-/

namespace BuildHook.Dispatch

open Build (Guarded span_enter span_leave span_other)
open BuildHook.Path (components)
open Procedure

variable {settings : Build.Settings}

/-- Whether a build is in its workspace: its next request is for work there, or to leave it. -/
def Job.IsInside (job : Job) : Prop :=
  ∃ r next, job.phase = .running (.ask r next)
    ∧ (r.kind = .work ∨ ∃ workspace, r = .leave workspace)

/-- Whether a build asks to enter a workspace. -/
def Job.Enters (job : Job) (workspace : String) : Prop :=
  ∃ next, job.phase = .running (.ask (.enter workspace) next)

/-- What the builds of a pool can rely on: in a workspace a build is alone, under every spelling of
its name; from there it does nothing but work until it leaves, whatever it is answered; it can
always leave; and when nobody is inside, somebody who asks to enter can. -/
structure Exclusive (settings : Build.Settings) (pool : Pool) : Prop where
  alone : ∀ {i j : Nat} {first second : Job} {v w : String}, i ≠ j →
    pool.jobs[i]? = some first → pool.jobs[j]? = some second →
    first.IsInside → second.IsInside →
    first.workspace settings = some v → second.workspace settings = some w →
    components v ≠ components w
  spelled : ∀ {i j : Nat} {first second : Job}, i ≠ j →
    pool.jobs[i]? = some first → pool.jobs[j]? = some second →
    first.IsInside → second.IsInside →
    components first.push.fullName ≠ components second.push.fullName
  leaves : ∀ {i : Nat} {job : Job} {rest : Build.Steps BuildState}, pool.jobs[i]? = some job →
    job.IsInside → job.phase = .running rest →
    ∀ {h : List Build.Exchange} {state : BuildState}, Leads rest h (.done state) →
    ∃ workspace inner outer, job.workspace settings = some workspace
      ∧ h = inner ++ ⟨.leave workspace, ()⟩ :: outer ∧ ∀ x ∈ inner, x.question.kind = .work
  released : ∀ {i : Nat} {job : Job} {workspace : String} {next}, pool.jobs[i]? = some job →
    job.phase = .running (.ask (.leave workspace) next) →
    ∀ {σ : Type} (surroundings : Surroundings σ) (state : σ), ∃ job',
      (pool.stepBuild surroundings state i).1.jobs[i]? = some job' ∧ ¬ job'.IsInside
  enters : ∀ {i : Nat} {job : Job} {workspace : String},
    pool.jobs[i]? = some job → job.Enters workspace →
    (∀ {j : Nat} {other : Job} {v : String}, pool.jobs[j]? = some other →
      other.workspace settings = some v → components v = components workspace → ¬ other.IsInside) →
    ∃ j other v, pool.jobs[j]? = some other ∧ other.Enters v
      ∧ components v = components workspace
      ∧ ∀ {σ : Type} (surroundings : Surroundings σ) (state : σ), ∃ other',
        (pool.stepBuild surroundings state j).1.jobs[j]? = some other' ∧ other'.IsInside

/-- By the next request of a build it is known where it is. -/
theorem inside_of_request {workspace : Option String} {r : Build.Request}
    {next : Build.Reply r → Build.Steps BuildState} {inside : Bool}
    (guarded : Guarded workspace (.ask r next) inside)
    (hr : r.kind = .work ∨ ∃ place, r = .leave place) : inside = true := by
  obtain ⟨later, hs, -⟩ := guarded
  rcases hr with hr | ⟨place, rfl⟩
  · exact (span_other (by simp [hr]) hs).2.mpr hr
  · exact (span_leave hs).2.1

/-- Whoever has a workspace is inside. -/
theorem isInside_of_guarded {job : Job} {workspace : Option String}
    {rest : Build.Steps BuildState} (phase : job.phase = .ofSteps rest)
    (guarded : Guarded workspace rest true) : job.IsInside := by
  cases rest with
  | done state => cases guarded
  | ask r next =>
    refine ⟨r, next, phase, ?_⟩
    obtain ⟨later, hs, -⟩ := guarded
    by_cases hr : r.kind = .lock
    · cases r with
      | enter place => cases (span_enter hs).2.1
      | leave place => exact .inr ⟨place, rfl⟩
      | _ => cases hr
    · exact .inl ((span_other hr hs).2.mp rfl)

theorem not_isInside_of_guarded {job : Job} {workspace : Option String}
    {rest : Build.Steps BuildState} (phase : job.phase = .ofSteps rest)
    (guarded : Guarded workspace rest false) : ¬ job.IsInside := by
  rintro ⟨r, next, running, hr⟩
  cases rest with
  | done state => cases phase.symm.trans running
  | ask r' next' =>
    cases phase.symm.trans running
    cases inside_of_request guarded hr

namespace Orderly

variable {pool : Pool}

/-- Whoever is inside is the first in line. -/
theorem first_of_inside (orderly : Orderly settings pool) {i : Nat} {job : Job}
    (found : pool.jobs[i]? = some job) (inside : job.IsInside) :
    Guarded (job.workspace settings) job.phase.steps true ∧ ∃ workspace,
      job.workspace settings = some workspace
      ∧ (pool.locks.line (components workspace)).head? = some i := by
  obtain ⟨r, next, running, hr⟩ := inside
  obtain ⟨place, guarded, first⟩ := orderly.guarded found
  rw [running] at guarded ⊢
  obtain rfl := inside_of_request guarded hr
  exact ⟨guarded, first rfl⟩

theorem alone (orderly : Orderly settings pool) {i j : Nat} {first second : Job} {v w : String}
    (different : i ≠ j) (hf : pool.jobs[i]? = some first) (hs : pool.jobs[j]? = some second)
    (fi : first.IsInside) (si : second.IsInside) (hv : first.workspace settings = some v)
    (hw : second.workspace settings = some w) : components v ≠ components w := by
  intro same
  obtain ⟨-, v', hv', ahead⟩ := orderly.first_of_inside hf fi
  obtain ⟨-, w', hw', ahead'⟩ := orderly.first_of_inside hs si
  obtain rfl : v = v' := Option.some.inj (hv.symm.trans hv')
  obtain rfl : w = w' := Option.some.inj (hw.symm.trans hw')
  rw [same] at ahead
  exact different (Option.some.inj (ahead.symm.trans ahead'))

theorem released (orderly : Orderly settings pool) {i : Nat} {job : Job} {workspace : String}
    {next : Unit → Build.Steps BuildState} (found : pool.jobs[i]? = some job)
    (running : job.phase = .running (.ask (.leave workspace) next))
    {σ : Type} (surroundings : Surroundings σ) (state : σ) : ∃ job',
      (pool.stepBuild surroundings state i).1.jobs[i]? = some job' ∧ ¬ job'.IsInside := by
  obtain ⟨push, project, phase⟩ := job
  cases running
  have step : (pool.stepBuild surroundings state i).1
      = pool.proceed i (pool.locks.leave (components workspace) i) (next ()) := by
    simp [Pool.stepBuild, found, Procedure.step, Pool.answer?]
  refine ⟨_, by rw [step]; exact Pool.getElem?_proceed_self found _ _, ?_⟩
  obtain ⟨inside, ⟨later, hs, hn⟩, -⟩ := orderly.guarded found
  obtain ⟨-, -, rfl⟩ := span_leave hs
  exact not_isInside_of_guarded rfl (hn ())

/-- Whoever is the first in line when he asks to enter gets in. -/
theorem lets_in (orderly : Orderly settings pool) {i : Nat} {job : Job} {workspace : String}
    (found : pool.jobs[i]? = some job) (asks : job.Enters workspace)
    (ahead : ((pool.locks.join (components workspace) i).line (components workspace)).head?
      = some i) {σ : Type} (surroundings : Surroundings σ) (state : σ) : ∃ job',
      (pool.stepBuild surroundings state i).1.jobs[i]? = some job' ∧ job'.IsInside := by
  obtain ⟨push, project, phase⟩ := job
  obtain ⟨next, running⟩ := asks
  cases running
  have step : (pool.stepBuild surroundings state i).1
      = pool.proceed i (pool.locks.join (components workspace) i) (next ()) := by
    simp [Pool.stepBuild, found, Procedure.step, Pool.answer?, (Locks.has_iff _ _ _).mpr ahead]
  refine ⟨_, by rw [step]; exact Pool.getElem?_proceed_self found _ _, ?_⟩
  obtain ⟨inside, ⟨later, hs, hn⟩, -⟩ := orderly.guarded found
  obtain ⟨-, -, rfl⟩ := span_enter hs
  exact isInside_of_guarded rfl (hn ())

/-- When nobody is inside, either nobody stands in line and whoever asks gets in, or the first in
line does. -/
theorem enters (orderly : Orderly settings pool) {i : Nat} {job : Job} {workspace : String}
    (found : pool.jobs[i]? = some job) (asks : job.Enters workspace)
    (vacant : ∀ {j : Nat} {other : Job} {v : String}, pool.jobs[j]? = some other →
      other.workspace settings = some v → components v = components workspace → ¬ other.IsInside) :
    ∃ j other v, pool.jobs[j]? = some other ∧ other.Enters v
      ∧ components v = components workspace
      ∧ ∀ {σ : Type} (surroundings : Surroundings σ) (state : σ), ∃ other',
        (pool.stepBuild surroundings state j).1.jobs[j]? = some other' ∧ other'.IsInside := by
  cases hl : pool.locks.line (components workspace) with
  | nil =>
    refine ⟨i, job, workspace, found, asks, rfl, orderly.lets_in found asks ?_⟩
    rw [Locks.line_join_self, hl]
    rfl
  | cons j behind =>
    have member : j ∈ pool.locks.line (components workspace) := by simp [hl]
    obtain ⟨other, v, rest, found', hv, same, running, hg | ⟨next, rfl⟩⟩ := orderly.queued member
    · refine absurd ?_ (vacant found' hv same)
      cases rest with
      | done state => cases hg
      | ask r next =>
        have phase : other.phase = .ofSteps (.ask r next) := running
        exact isInside_of_guarded phase hg
    · refine ⟨j, other, v, found', ⟨next, running⟩, same,
        orderly.lets_in found' ⟨next, running⟩ ?_⟩
      rw [same]
      exact Locks.head_join (by rw [hl]; rfl)

theorem exclusive (orderly : Orderly settings pool) : Exclusive settings pool where
  alone := orderly.alone
  spelled different hf hs fi si same := by
    obtain ⟨-, v, hv, -⟩ := orderly.first_of_inside hf fi
    obtain ⟨-, w, hw, -⟩ := orderly.first_of_inside hs si
    exact orderly.alone different hf hs fi si hv hw ((Workspace.dir?_same_iff hv hw).mpr same)
  leaves found inside running _ _ hl := by
    have guarded := (orderly.first_of_inside found inside).1
    rw [running] at guarded
    exact guarded.leaves hl
  released := orderly.released
  enters := orderly.enters

end Orderly

/-- In whatever order the builds of a pool go on, and whatever they are answered, they are alone in
their workspaces. -/
theorem Course.run_exclusive {σ : Type} (settings : Build.Settings)
    (surroundings : Surroundings σ) (maxConcurrent : Nat) (state : σ) (moves : List (Move σ)) :
    Exclusive settings ((create maxConcurrent state).run settings surroundings moves).pool :=
  (run_orderly surroundings maxConcurrent state moves).exclusive

end BuildHook.Dispatch
