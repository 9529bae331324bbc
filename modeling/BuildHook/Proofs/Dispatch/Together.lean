import BuildHook.Proofs.Dispatch.Readiness

/-!
# Builds that run together

A pool is still when no build can go on except those in a clone, which wait for its release. Then a
build whose workspace nobody uses is in its clone too, unless all permits are taken. They can all be
taken although few builds work: a build that waits for its workspace keeps its permit.

## Main results

`Course.run_together` says when a build in a pool at rest is in its clone, and
`Course.not_always_together` that it does not suffice that few builds are in their workspaces.
-/

namespace BuildHook.Dispatch

open Build (Guarded span_enter)
open BuildHook.Path (components)

/-- Whether a build is in a clone. -/
def Job.isCloning (job : Job) : Bool :=
  match job.phase with
  | .running (.ask (.clone ..) _) => true
  | _ => false

/-- Whether a build is past the lock of its workspace and has not left it. -/
def Job.isInside (job : Job) : Bool :=
  match job.phase with
  | .running (.ask (.leave _) _) => true
  | .running (.ask r _) => r.kind == .work
  | _ => false

theorem Job.isInside_iff {job : Job} : job.isInside = true ↔ job.IsInside := by
  unfold isInside IsInside
  split
  · next workspace next phase =>
    exact ⟨fun _ => ⟨_, next, phase, .inr ⟨workspace, rfl⟩⟩, fun _ => rfl⟩
  · next r next elsewhere phase =>
    rw [beq_iff_eq]
    refine ⟨fun work => ⟨r, next, phase, .inl work⟩, ?_⟩
    rintro ⟨r', next', same, work | ⟨workspace, rfl⟩⟩
    · cases phase.symm.trans same
      exact work
    · cases phase.symm.trans same
      exact (elsewhere workspace next' rfl HEq.rfl).elim
  · next other =>
    constructor
    · intro inside
      cases inside
    · rintro ⟨r, next, phase, -⟩
      exact absurd phase (other r next)

theorem Job.isInside_of_isCloning {job : Job} (cloning : job.isCloning = true) :
    job.isInside = true := by
  unfold isCloning at cloning
  split at cloning
  · next phase => simp [isInside, phase, Build.Request.kind]
  · cases cloning

/-- Whether no build can go on, apart from those in a clone. -/
def Pool.IsStill (pool : Pool) : Prop := ∀ i job, pool.Ready i job → job.isCloning = true

/-- Whether no other build is in the workspace of a build. -/
def Pool.IsIdle (settings : Build.Settings) (pool : Pool) (build : Nat) (job : Job) : Prop :=
  ∀ j other, pool.jobs[j]? = some other → j ≠ build → other.isInside = true →
    (other.workspace settings).map components ≠ (job.workspace settings).map components

section Decidable

variable {settings : Build.Settings} {pool : Pool} {i : Nat} {job : Job}

instance : Decidable (pool.LacksPermit job) := inferInstanceAs (Decidable (_ ∧ _))

instance : Decidable (pool.LacksWorkspace i job) :=
  inferInstanceAs (Decidable (∃ workspace ∈ job.asked?, _))

/-- What holds of all builds can be checked by their numbers. -/
theorem Pool.forall_job_iff {p : Nat → Job → Prop} :
    (∀ i job, pool.jobs[i]? = some job → p i job)
      ↔ ∀ i, ∀ inside : i < pool.jobs.length, p i pool.jobs[i] := by
  constructor
  · exact fun all i inside => all i _ (List.getElem?_eq_getElem inside)
  · intro all i job found
    obtain ⟨inside, rfl⟩ := List.getElem?_eq_some_iff.mp found
    exact all i inside

theorem Pool.isStill_iff : pool.IsStill ↔ ∀ i job, pool.jobs[i]? = some job →
    job.phase.isFinished = false → ¬ pool.LacksPermit job → ¬ pool.LacksWorkspace i job →
      job.isCloning = true :=
  ⟨fun still i job found unfinished permit workspace =>
      still i job ⟨found, unfinished, permit, workspace⟩,
    fun all i job ready => all i job ready.found ready.unfinished ready.permit ready.workspace⟩

instance : Decidable pool.IsStill :=
  decidable_of_iff' _ (Pool.isStill_iff.trans Pool.forall_job_iff)

instance : Decidable (pool.IsIdle settings i job) := decidable_of_iff' _ Pool.forall_job_iff

end Decidable

variable {settings : Build.Settings} {pool : Pool} {i : Nat} {job : Job}

namespace Pool.IsStill

/-- In a pool at rest, whoever has a permit is in a clone or asks to enter its workspace. -/
theorem running_cases (still : pool.IsStill) (found : pool.jobs[i]? = some job)
    (running : job.phase.isRunning = true) : job.isCloning = true ∨ pool.LacksWorkspace i job := by
  by_cases lacks : pool.LacksWorkspace i job
  · exact .inr lacks
  · refine .inl (still i job ⟨found, (Phase.of_isRunning running).1, ?_, lacks⟩)
    rintro ⟨waiting, -⟩
    exact Bool.false_ne_true ((Phase.of_isRunning running).2.symm.trans waiting)

/-- In a pool at rest, all permits are held by builds in their workspaces or before them. -/
theorem held_le (still : pool.IsStill) :
    pool.held ≤ pool.jobs.countP Job.isInside + pool.jobs.countP fun job => job.asked?.isSome := by
  apply countP_le_add
  intro job member running
  obtain ⟨i, found⟩ := List.mem_iff_getElem?.mp member
  rcases still.running_cases found running with cloning | ⟨workspace, asks, -⟩
  · exact .inl (Job.isInside_of_isCloning cloning)
  · exact .inr (Option.isSome_iff_exists.mpr ⟨workspace, asks⟩)

/-- In a pool at rest, whoever lacks its workspace finds another build in it. -/
theorem not_isIdle (still : pool.IsStill) (orderly : Orderly settings pool)
    (found : pool.jobs[i]? = some job) (lacks : pool.LacksWorkspace i job) :
    ¬ pool.IsIdle settings i job := by
  intro idle
  obtain ⟨workspace, j, ⟨next, asks⟩, different, first⟩ := lacks.first
  obtain ⟨other, ready, -⟩ := orderly.ready_of_first first
  obtain ⟨other', w, rest, found', hw, same, -⟩ := orderly.queued (List.mem_of_head? first)
  obtain rfl : other = other' := Option.some.inj (ready.found.symm.trans found')
  have own : job.workspace settings = some workspace := by
    obtain ⟨inside, ⟨later, hs, -⟩, -⟩ : ∃ inside, Guarded (job.workspace settings)
        (.ask (.enter workspace) next) inside ∧ _ := by
      have guarded := orderly.guarded found
      rwa [asks] at guarded
    exact (span_enter hs).1
  apply idle j other ready.found different (Job.isInside_of_isCloning (still j other ready))
  rw [own, hw, Option.map_some, Option.map_some, same]

end Pool.IsStill

/-- When no build can go on except those in a clone, and fewer builds than may run are in their
workspaces or wait for them, then every build that is left and whose workspace nobody else is in is
in its clone. -/
theorem Course.run_together {σ : Type} (settings : Build.Settings) (surroundings : Surroundings σ)
    (maxConcurrent : Nat) (state : σ) (moves : List (Move σ)) :
    let pool := ((create maxConcurrent state).run settings surroundings moves).pool
    pool.IsStill →
    pool.jobs.countP Job.isInside + pool.jobs.countP (fun job => job.asked?.isSome)
      < max 1 maxConcurrent →
    ∀ i job, pool.jobs[i]? = some job → job.phase.isFinished = false →
    pool.IsIdle settings i job → job.isCloning = true := by
  intro pool still few i job found unfinished idle
  have orderly : Orderly settings pool := run_orderly surroundings maxConcurrent state moves
  have balanced : Balanced maxConcurrent pool := run_balanced maxConcurrent state moves
  have free : pool.free ≠ 0 := by
    have permits := balanced.permits
    have held := still.held_le
    omega
  apply still i job
  exact ⟨found, unfinished, fun lacks => free lacks.2,
    fun lacks => still.not_isIdle orderly found lacks idle⟩

namespace Sample

/-- Two builds of one repository and one of another. The first is held back at its clone, the second
waits for the workspace, and the third goes on if it gets a permit. -/
def crowd : List (Move (Nat × Nat)) :=
  .dispatch (Build.Sample.pushTo "a/b") Build.Sample.project
    :: .dispatch (Build.Sample.pushTo "a/b") Build.Sample.project
    :: .dispatch (Build.Sample.pushTo "c/d") Build.Sample.project
    :: .start 0 :: .start 1 :: .start 2
    :: (List.replicate 5 (.step 0) ++ List.replicate 3 (.step 1) ++ List.replicate 5 (.step 2))

/-- What comes of the crowd when so many builds may run. -/
def crowded (maxConcurrent : Nat) : Pool :=
  ((Course.create maxConcurrent (0, 0)).run Build.Sample.settings
    (gated (fun _ => Build.Sample.answer) opens) crowd).pool

end Sample

/-- With four permits, the build of the other repository is in its clone. -/
theorem Course.run_together_crowd :
    (Sample.crowded 4).IsStill
    ∧ (Sample.crowded 4).jobs.countP Job.isInside
        + (Sample.crowded 4).jobs.countP (fun job => job.asked?.isSome) < 4
    ∧ ∃ job, (Sample.crowded 4).jobs[2]? = some job ∧ job.phase.isFinished = false
      ∧ (Sample.crowded 4).IsIdle Build.Sample.settings 2 job ∧ job.isCloning = true := by
  have still : (Sample.crowded 4).IsStill := by decide +kernel
  have few : (Sample.crowded 4).jobs.countP Job.isInside
      + (Sample.crowded 4).jobs.countP (fun job => job.asked?.isSome) < max 1 4 := by
    decide +kernel
  obtain ⟨job, found, unfinished, idle⟩ : ∃ job ∈ (Sample.crowded 4).jobs[2]?,
      job.phase.isFinished = false ∧ (Sample.crowded 4).IsIdle Build.Sample.settings 2 job := by
    decide +kernel
  exact ⟨still, few, job, found, unfinished, idle, run_together Build.Sample.settings
    (gated (fun _ => Build.Sample.answer) Sample.opens) 4 (0, 0) Sample.crowd still few 2 job found
    unfinished idle⟩

/-- With two permits, one build works and one waits for its workspace, so that the build of the
other repository has no permit. It does not suffice that fewer builds than may run are in their
workspaces. -/
theorem Course.not_always_together :
    ((Sample.crowded 2).IsStill
      ∧ (Sample.crowded 2).jobs.countP Job.isInside = 1
      ∧ ∃ job ∈ (Sample.crowded 2).jobs[2]?, job.phase.isWaiting = true
        ∧ (Sample.crowded 2).IsIdle Build.Sample.settings 2 job)
    ∧ ¬ ∀ (settings : Build.Settings) (surroundings : Surroundings (Nat × Nat))
      (maxConcurrent : Nat) (state : Nat × Nat) (moves : List (Move (Nat × Nat))),
      let pool := ((create maxConcurrent state).run settings surroundings moves).pool
      (∀ job ∈ pool.jobs, (job.workspace settings).isSome = true) →
      (∀ build path state, (surroundings build (.makeDirectories path) state).1 = some (.ok ())) →
      pool.IsStill →
      pool.jobs.countP Job.isInside < max 1 maxConcurrent →
      ∀ i job, pool.jobs[i]? = some job → job.phase.isFinished = false →
      pool.IsIdle settings i job → job.isCloning = true := by
  have still : (Sample.crowded 2).IsStill := by decide +kernel
  have inside : (Sample.crowded 2).jobs.countP Job.isInside = 1 := by decide +kernel
  have waits : ∃ job ∈ (Sample.crowded 2).jobs[2]?, job.phase.isWaiting = true
      ∧ (Sample.crowded 2).IsIdle Build.Sample.settings 2 job := by
    decide +kernel
  refine ⟨⟨still, inside, waits⟩, fun all => ?_⟩
  obtain ⟨job, found, waiting, idle⟩ := waits
  have named : ∀ job ∈ (Sample.crowded 2).jobs,
      (job.workspace Build.Sample.settings).isSome = true := by
    decide +kernel
  have few : (Sample.crowded 2).jobs.countP Job.isInside < max 1 2 := by
    rw [inside]
    decide
  obtain ⟨push, project, phase⟩ := job
  cases phase with
  | waiting steps =>
    have cloning := all Build.Sample.settings (gated (fun _ => Build.Sample.answer) Sample.opens) 2
      (0, 0) Sample.crowd named (fun _ _ _ => rfl) still few 2 _ found rfl idle
    cases cloning
  | _ => cases waiting

end BuildHook.Dispatch
