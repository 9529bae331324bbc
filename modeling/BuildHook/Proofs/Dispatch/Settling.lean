import BuildHook.Proofs.Dispatch.Step

/-!
# Settling as a course

A pool that settles makes moves that other pools could make too, only in a fixed order. So what
holds of all courses holds of a pool that settles.

## Main results

`Course.follows_settle` finds the moves.
-/

namespace BuildHook.Dispatch

open Procedure

variable {σ : Type} {settings : Build.Settings} {surroundings : Surroundings σ}

/-- Writing answers down changes nothing else. -/
theorem answer?_recording (surroundings : Surroundings σ) (build : Nat) (r : Build.Request)
    (locks : Locks) (state : σ) (log : List (Nat × Build.Exchange)) :
    ∃ log', Pool.answer? (recording surroundings build) build r (locks, state, log)
      = ((Pool.answer? (surroundings build) build r (locks, state)).1,
        (Pool.answer? (surroundings build) build r (locks, state)).2.1,
        (Pool.answer? (surroundings build) build r (locks, state)).2.2, log') := by
  by_cases hr : r.kind = .lock
  · cases r with
    | enter workspace => exact ⟨log, rfl⟩
    | leave workspace => exact ⟨log, rfl⟩
    | _ => cases hr
  · rw [Pool.answer?_of_not_lock _ _ hr, Pool.answer?_of_not_lock _ _ hr, recording]
    cases surroundings build r state with
    | mk reply state' =>
      cases reply with
      | none => exact ⟨log, rfl⟩
      | some reply => exact ⟨log ++ [(build, ⟨r, reply⟩)], rfl⟩

theorem stepBuild_recording (surroundings : Surroundings σ) (pool : Pool) (state : σ)
    (log : List (Nat × Build.Exchange)) (build : Nat) :
    ∃ log', pool.stepBuild (recording surroundings) (state, log) build
      = ((pool.stepBuild surroundings state build).1,
        (pool.stepBuild surroundings state build).2, log') := by
  unfold Pool.stepBuild
  split
  · next push project rest runs =>
    cases rest with
    | done result => exact ⟨log, rfl⟩
    | ask r next =>
      obtain ⟨log', recorded⟩ :=
        answer?_recording surroundings build r pool.locks state log
      simp only [step_ask, recorded]
      exact ⟨log', rfl⟩
  · exact ⟨log, rfl⟩

/-- Noting twice what is left of a build is noting it the second time. -/
theorem Pool.proceed_proceed (pool : Pool) (build : Nat) (locks locks' : Locks)
    (r : Build.Request) (next : Build.Reply r → Build.Steps BuildState)
    (rest : Build.Steps BuildState) :
    (pool.proceed build locks (.ask r next)).proceed build locks' rest
      = pool.proceed build locks' rest := by
  cases rest <;>
    simp [proceed, setPhase, retire, List.modify_modify_eq, Function.comp_def]

/-- Noting what is left of a build anew changes nothing. -/
theorem Pool.proceed_same {pool : Pool} {build : Nat} {push : Push} {project : ProjectRecord}
    {r : Build.Request} {next : Build.Reply r → Build.Steps BuildState}
    (found : pool.jobs[build]? = some ⟨push, project, .running (.ask r next)⟩) :
    pool.proceed build pool.locks (.ask r next) = pool := by
  have jobs : (pool.proceed build pool.locks (.ask r next)).jobs = pool.jobs := by
    apply List.ext_getElem?
    intro i
    by_cases same : build = i
    · subst same
      rw [getElem?_proceed_self found, found]
      rfl
    · rw [getElem?_proceed_other same]
  calc
    _ = { pool with jobs := (pool.proceed build pool.locks (.ask r next)).jobs } := rfl
    _ = pool := by rw [jobs]

namespace Course

/-- Whether moves that dispatch nothing lead to a pool and a state of its surroundings. -/
def Follows (settings : Build.Settings) (surroundings : Surroundings σ) (course : Course σ)
    (pool : Pool) (state : σ) : Prop :=
  ∃ moves, moves.flatMap Move.builds = []
    ∧ (course.run settings surroundings moves).pool = pool
    ∧ (course.run settings surroundings moves).state = state

variable {course : Course σ} {pool : Pool} {state : σ}

theorem Follows.refl (course : Course σ) :
    Follows settings surroundings course course.pool course.state :=
  ⟨[], rfl, rfl, rfl⟩

theorem Follows.step (follows : Follows settings surroundings course pool state) (build : Nat) :
    Follows settings surroundings course (pool.stepBuild surroundings state build).1
      (pool.stepBuild surroundings state build).2 := by
  obtain ⟨moves, quiet, rfl, rfl⟩ := follows
  refine ⟨moves ++ [.step build], by simp [quiet, Move.builds], ?_, ?_⟩
  all_goals
    rw [run_append]
    simp only [run, List.foldl_cons, List.foldl_nil, after, moved]
    obtain ⟨log', recorded⟩ := stepBuild_recording surroundings
      (course.run settings surroundings moves).pool (course.run settings surroundings moves).state
      (course.run settings surroundings moves).log build
    simp only [run] at recorded
    rw [recorded]

theorem Follows.start (follows : Follows settings surroundings course pool state) {build : Nat}
    {started : Pool} (starts : pool.startBuild? build = some started) :
    Follows settings surroundings course started state := by
  obtain ⟨moves, quiet, rfl, rfl⟩ := follows
  refine ⟨moves ++ [.start build], by simp [quiet, Move.builds], ?_, ?_⟩
  · rw [run_append]
    simp only [run, List.foldl_cons, List.foldl_nil, after, moved] at starts ⊢
    rw [starts]
    rfl
  · rw [run_append]
    rfl

theorem Follows.startAll (follows : Follows settings surroundings course pool state)
    (turns : Nat) : Follows settings surroundings course (pool.startAll turns) state := by
  induction turns generalizing pool with
  | zero => exact follows
  | succ turns ih =>
    unfold Pool.startAll
    split
    · next started starts =>
      obtain ⟨build, -, starts⟩ := Option.bind_eq_some_iff.mp starts
      exact ih (follows.start starts)
    · exact follows

/-- Going on as far as possible is going on step by step. -/
theorem Follows.advance (follows : Follows settings surroundings course pool state) (build : Nat) :
    Follows settings surroundings course (pool.advanceBuild surroundings state build).1
      (pool.advanceBuild surroundings state build).2 := by
  cases found : pool.jobs[build]? with
  | none => simpa [Pool.advanceBuild, found] using follows
  | some job =>
    obtain ⟨push, project, phase⟩ := job
    cases phase with
    | waiting steps => simpa [Pool.advanceBuild, found] using follows
    | finished result => simpa [Pool.advanceBuild, found] using follows
    | running rest =>
      cases rest with
      | done result =>
        have step := follows.step build
        simpa [Pool.stepBuild, Pool.advanceBuild, found, Procedure.step, Procedure.advance]
          using step
      | ask r next =>
        have kept := advance_keeps (Pool.answer? (surroundings build) build)
          (fun left => Follows settings surroundings course
            (pool.proceed build left.2.1 left.1) left.2.2)
          ?_ (.ask r next) (pool.locks, state) ?_
        · simpa only [Pool.advanceBuild, found] using kept
        · rintro (result | ⟨r, next⟩) ⟨locks, state⟩ before
          · exact before
          · have step := before.step build
            have found' : (pool.proceed build locks (.ask r next)).jobs[build]?
                = some ⟨push, project, .running (.ask r next)⟩ :=
              Pool.getElem?_proceed_self found locks (.ask r next)
            simpa only [Pool.stepBuild, found', Pool.locks_proceed, Pool.proceed_proceed]
              using step
        · show Follows _ _ _ (pool.proceed build pool.locks (.ask r next)) state
          rwa [Pool.proceed_same found]

theorem Follows.advanceEach (builds : List Nat) :
    ∀ {pool : Pool} {state : σ}, Follows settings surroundings course pool state →
      Follows settings surroundings course (Pool.advanceEach surroundings builds pool state).1
        (Pool.advanceEach surroundings builds pool state).2 := by
  induction builds with
  | nil => exact fun follows => follows
  | cons build builds ih => exact fun follows => ih (follows.advance build)

theorem Follows.sweep (follows : Follows settings surroundings course pool state) :
    Follows settings surroundings course (pool.sweep surroundings state).1
      (pool.sweep surroundings state).2 :=
  advanceEach _ (follows.startAll _)

theorem Follows.sweeps (turns : Nat) :
    ∀ {pool : Pool} {state : σ}, Follows settings surroundings course pool state →
      Follows settings surroundings course (Pool.sweeps surroundings turns pool state).1
        (Pool.sweeps surroundings turns pool state).2 := by
  induction turns with
  | zero => exact fun follows => follows
  | succ turns ih => exact fun follows => ih follows.sweep

/-- A pool that settles only makes moves of a course. -/
theorem follows_settle (course : Course σ) :
    Follows settings surroundings course (course.pool.settle surroundings course.state).1
      (course.pool.settle surroundings course.state).2 :=
  Follows.sweeps _ (.refl course)

end Course

end BuildHook.Dispatch
