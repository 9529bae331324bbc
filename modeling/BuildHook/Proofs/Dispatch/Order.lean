import BuildHook.Proofs.Build.Span
import BuildHook.Proofs.Dispatch.Step

/-!
# The lines before the workspaces

A build that is in its workspace is the first in the line before it, and whoever stands in a line is
inside or asks to enter. Every move keeps this.

## Main results

`Orderly` is the invariant, `Course.run_orderly` its proof for all courses.
-/

namespace BuildHook.Dispatch

open Build (Guarded span_enter span_leave span_other)
open BuildHook.Path (components)
open Procedure

/-- The workspace of a build, unless the name of its repository is refused. -/
def Job.workspace (settings : Build.Settings) (job : Job) : Option String :=
  Build.workspaceOf settings job.push

/-- The lines before the workspaces are in order: whoever is inside is the first in line, and
whoever stands in line is inside or asks to enter. -/
structure Orderly (settings : Build.Settings) (pool : Pool) : Prop where
  guarded : ∀ {i job}, pool.jobs[i]? = some job →
    ∃ inside, Guarded (job.workspace settings) job.phase.steps inside
      ∧ (inside = true → ∃ workspace, job.workspace settings = some workspace
        ∧ (pool.locks.line (components workspace)).head? = some i)
  queued : ∀ {i place}, i ∈ pool.locks.line place →
    ∃ job workspace rest, pool.jobs[i]? = some job ∧ job.workspace settings = some workspace
      ∧ components workspace = place ∧ job.phase = .running rest
      ∧ (Guarded (some workspace) rest true ∨ ∃ next, rest = .ask (.enter workspace) next)

variable {settings : Build.Settings}

theorem orderly_create (maxConcurrent : Nat) : Orderly settings (.create maxConcurrent) where
  guarded found := by simp [Pool.create] at found
  queued member := by simp [Pool.create, Locks.line_empty] at member

theorem Orderly.dispatch {pool : Pool} (orderly : Orderly settings pool) (push : Push)
    (project : ProjectRecord) : Orderly settings (pool.dispatch settings push project) where
  guarded {i job} found := by
    simp only [Pool.dispatch, List.getElem?_append] at found
    split at found
    · exact orderly.guarded found
    · have fresh := List.mem_of_getElem? found
      rw [List.mem_singleton.mp fresh]
      exact ⟨false, Build.run_guarded settings push project, by simp⟩
  queued {i place} member := by
    obtain ⟨job, workspace, rest, found, facts⟩ := orderly.queued member
    have old : i < pool.jobs.length := (List.getElem?_eq_some_iff.mp found).1
    refine ⟨job, workspace, rest, ?_, facts⟩
    simp only [Pool.dispatch]
    rw [List.getElem?_append_left old, found]

/-- A build that waits for a permit stands in no line yet. -/
theorem Orderly.start {pool : Pool} (orderly : Orderly settings pool) {build free : Nat}
    {push : Push} {project : ProjectRecord} {steps : Build.Steps BuildState}
    (waits : pool.jobs[build]? = some ⟨push, project, .waiting steps⟩) :
    Orderly settings { pool.setPhase build (.running steps) with free } where
  guarded {i job} found := by
    simp only [Pool.setPhase, List.getElem?_modify] at found
    obtain ⟨old, ho, rfl⟩ := Option.map_eq_some_iff.mp found
    have kept := orderly.guarded ho
    split
    · next same =>
      subst same
      rw [waits] at ho
      cases ho
      exact kept
    · exact kept
  queued {i place} member := by
    obtain ⟨job, workspace, rest, found, hw, hp, running, facts⟩ := orderly.queued member
    have other : build ≠ i := by
      rintro rfl
      rw [waits] at found
      cases found
      cases running
    refine ⟨job, workspace, rest, ?_, hw, hp, running, facts⟩
    simp [Pool.setPhase, other, found]

/-- A build has gone on. It keeps to its workspace, and the others keep their places. -/
theorem Orderly.proceed {pool : Pool} (orderly : Orderly settings pool) {build : Nat} {job : Job}
    {locks : Locks} {rest : Build.Steps BuildState} {inside : Bool}
    (found : pool.jobs[build]? = some job)
    (guarded : Guarded (job.workspace settings) rest inside)
    (first : inside = true → ∃ workspace, job.workspace settings = some workspace
      ∧ (locks.line (components workspace)).head? = some build)
    (stays : ∀ i place, i ≠ build → (pool.locks.line place).head? = some i →
      (locks.line place).head? = some i)
    (stood : ∀ i place, i ≠ build → i ∈ locks.line place → i ∈ pool.locks.line place)
    (stands : ∀ place, build ∈ locks.line place → ∃ workspace,
      job.workspace settings = some workspace ∧ components workspace = place
      ∧ (inside = true ∨ ∃ next, rest = .ask (.enter workspace) next)) :
    Orderly settings (pool.proceed build locks rest) where
  guarded {i job'} found' := by
    rw [Pool.locks_proceed]
    by_cases same : build = i
    · subst same
      rw [Pool.getElem?_proceed_self found] at found'
      cases found'
      refine ⟨inside, ?_, first⟩
      show Guarded _ (Phase.ofSteps rest).steps inside
      rwa [Phase.steps_ofSteps]
    · rw [Pool.getElem?_proceed_other same] at found'
      obtain ⟨inside', hg, hf⟩ := orderly.guarded found'
      refine ⟨inside', hg, ?_⟩
      intro hi
      obtain ⟨workspace, hw, hl⟩ := hf hi
      exact ⟨workspace, hw, stays i _ (Ne.symm same) hl⟩
  queued {i place} member := by
    rw [Pool.locks_proceed] at member
    by_cases same : build = i
    · subst same
      obtain ⟨workspace, hw, hp, facts⟩ := stands place member
      rw [hw] at guarded
      -- whoever is inside or asks to enter has not ended
      have unfinished : Phase.ofSteps rest = .running rest := by
        rcases facts with rfl | ⟨next, rfl⟩
        · cases rest with
          | done state => cases guarded
          | ask r next => rfl
        · rfl
      refine ⟨_, workspace, rest, Pool.getElem?_proceed_self found locks rest, hw, hp,
        unfinished, ?_⟩
      · rcases facts with rfl | asks
        · exact .inl guarded
        · exact .inr asks
    · obtain ⟨job', workspace, rest', found', facts⟩ :=
        orderly.queued (stood i place (Ne.symm same) member)
      exact ⟨job', workspace, rest', by rw [Pool.getElem?_proceed_other same, found'], facts⟩

/-- Whoever joins a line leaves its first in place. -/
theorem Locks.head_join {locks : Locks} {place other : Place} {build i : Nat}
    (first : (locks.line other).head? = some i) :
    ((locks.join place build).line other).head? = some i := by
  by_cases same : other = place
  · subst same
    rw [line_join_self]
    unfold queued
    split
    · exact first
    · rw [List.head?_append, first]
      rfl
  · rw [line_join_other _ same, first]

theorem Locks.mem_join {locks : Locks} {place other : Place} {build i : Nat}
    (member : i ∈ (locks.join place build).line other) :
    i ∈ locks.line other ∨ i = build ∧ other = place := by
  by_cases same : other = place
  · subst same
    rw [line_join_self] at member
    unfold queued at member
    split at member
    · exact .inl member
    · rcases List.mem_append.mp member with old | new
      · exact .inl old
      · exact .inr ⟨List.mem_singleton.mp new, rfl⟩
  · rw [line_join_other _ same] at member
    exact .inl member

/-- Whatever a request of a build comes to, the lines stay in order. -/
theorem Orderly.step {pool : Pool} (orderly : Orderly settings pool) {build : Nat}
    {push : Push} {project : ProjectRecord} {rest rest' : Build.Steps BuildState} {locks : Locks}
    {exchanges : List Build.Exchange}
    (runs : pool.jobs[build]? = some ⟨push, project, .running rest⟩)
    (progress : Progress build rest pool.locks exchanges rest' locks) :
    Orderly settings (pool.proceed build locks rest') := by
  obtain ⟨inside, guarded, first⟩ := orderly.guarded runs
  -- a build in line is inside or asks to enter, so the line tells where it is
  have stands : ∀ place, build ∈ pool.locks.line place → ∃ workspace,
      Build.workspaceOf settings push = some workspace ∧ components workspace = place
      ∧ (inside = true ∨ ∃ next, rest = .ask (.enter workspace) next) := by
    intro place member
    obtain ⟨job, workspace, rest₀, found, hw, hp, running, facts⟩ := orderly.queued member
    rw [runs] at found
    cases found
    cases running
    refine ⟨workspace, hw, hp, ?_⟩
    rcases facts with hg | asks
    · exact .inl (guarded.unique (hw ▸ hg))
    · exact .inr asks
  cases progress with
  | ended state =>
    refine orderly.proceed runs guarded first (fun i place _ h => h) (fun i place _ h => h) ?_
    exact stands
  | @entered workspace next _ ahead =>
    obtain ⟨later, hs, hn⟩ := guarded
    obtain ⟨hw, -, rfl⟩ := span_enter hs
    refine orderly.proceed runs (hn ()) ?_ (fun i place _ h => Locks.head_join h) ?_ ?_
    · exact fun _ => ⟨workspace, hw, (Locks.has_iff _ _ _).mp ahead⟩
    · intro i place other member
      exact (Locks.mem_join member).resolve_right fun h => other h.1
    · intro place member
      rcases Locks.mem_join member with old | ⟨-, rfl⟩
      · obtain ⟨workspace', hw', hp, -⟩ := stands place old
        exact ⟨workspace', hw', hp, .inl rfl⟩
      · exact ⟨workspace, hw, rfl, .inl rfl⟩
  | @queued workspace next _ behind =>
    obtain ⟨hw, outside⟩ : Build.workspaceOf settings push = some workspace ∧ inside = false := by
      obtain ⟨later, hs, -⟩ := guarded
      exact ⟨(span_enter hs).1, (span_enter hs).2.1⟩
    refine orderly.proceed runs guarded ?_ (fun i place _ h => Locks.head_join h) ?_ ?_
    · exact fun hi => absurd (outside.symm.trans hi) Bool.false_ne_true
    · intro i place other member
      exact (Locks.mem_join member).resolve_right fun h => other h.1
    · intro place member
      rcases Locks.mem_join member with old | ⟨-, rfl⟩
      · exact stands place old
      · exact ⟨workspace, hw, rfl, .inr ⟨next, rfl⟩⟩
  | @left workspace next _ =>
    obtain ⟨later, hs, hn⟩ := guarded
    obtain ⟨hw, hi, rfl⟩ := span_leave hs
    obtain ⟨workspace', hw', ahead⟩ := first hi
    obtain rfl : workspace = workspace' := Option.some.inj (hw.symm.trans hw')
    refine orderly.proceed runs (hn ()) (by simp) ?_ ?_ ?_
    · intro i place other h
      have elsewhere : place ≠ components workspace := by
        rintro rfl
        exact other (Option.some.inj (h.symm.trans ahead))
      rw [Locks.line_leave_other _ elsewhere, h]
    · intro i place other member
      by_cases same : place = components workspace
      · subst same
        rw [Locks.line_leave_self] at member
        exact (List.mem_filter.mp member).1
      · rwa [Locks.line_leave_other _ same] at member
    · intro place member
      by_cases same : place = components workspace
      · subst same
        simp at member
      · rw [Locks.line_leave_other _ same] at member
        obtain ⟨workspace', hw', hp, -⟩ := stands place member
        obtain rfl : workspace = workspace' := Option.some.inj (hw.symm.trans hw')
        exact absurd hp.symm same
  | @answered r next _ reply other =>
    obtain ⟨later, hs, hn⟩ := guarded
    obtain ⟨rfl, -⟩ := span_other other hs
    refine orderly.proceed runs (hn reply) first (fun i place _ h => h) (fun i place _ h => h) ?_
    intro place member
    obtain ⟨workspace, hw, hp, hi | ⟨next', asks⟩⟩ := stands place member
    · exact ⟨workspace, hw, hp, .inl hi⟩
    · cases asks
      exact absurd rfl other
  | unanswered other =>
    exact orderly.proceed runs guarded first (fun i place _ h => h) (fun i place _ h => h) stands

theorem Orderly.next {pool after : Pool} (orderly : Orderly settings pool)
    {builds : List (Push × ProjectRecord)} {answers : List (Nat × Build.Exchange)}
    (next : Next settings pool builds answers after) : Orderly settings after := by
  cases next with
  | same => exact orderly
  | dispatched push project => exact orderly.dispatch push project
  | started waits free => exact orderly.start waits
  | stepped runs progress => exact orderly.step runs progress
  | closed => exact ⟨orderly.guarded, orderly.queued⟩

variable {σ : Type}

theorem Course.run_orderly (surroundings : Surroundings σ) (maxConcurrent : Nat) (state : σ)
    (moves : List (Move σ)) :
    Orderly settings ((create maxConcurrent state).run settings surroundings moves).pool := by
  apply run_keeps settings surroundings (fun course => Orderly settings course.pool)
  · intro course move orderly
    obtain ⟨answers, -, next⟩ := after_next settings surroundings course move
    exact orderly.next next
  · exact orderly_create maxConcurrent

end BuildHook.Dispatch
