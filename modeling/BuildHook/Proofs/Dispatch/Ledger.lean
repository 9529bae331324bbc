import BuildHook.Proofs.Dispatch.Step
import BuildHook.Proofs.List.Entries

/-!
# The ledger of a pool

No permit is ever lost, and a build counts as active from its dispatch to its end. Both are sums
that every move keeps.
-/

namespace BuildHook.Dispatch

open Procedure

namespace Pool

/-- How many builds have a permit. -/
def held (pool : Pool) : Nat := pool.jobs.countP fun job => job.phase.isRunning

/-- How many builds have come to their end. -/
def ended (pool : Pool) : Nat := pool.jobs.countP fun job => job.phase.isFinished

variable {pool : Pool} {build : Nat} {job : Job}

theorem held_setPhase (found : pool.jobs[build]? = some job) (phase : Phase) :
    (pool.setPhase build phase).held + (if job.phase.isRunning then 1 else 0)
      = pool.held + (if phase.isRunning then 1 else 0) :=
  countP_modify (fun job : Job => job.phase.isRunning) (fun job => { job with phase }) found

theorem ended_setPhase (found : pool.jobs[build]? = some job) (phase : Phase) :
    (pool.setPhase build phase).ended + (if job.phase.isFinished then 1 else 0)
      = pool.ended + (if phase.isFinished then 1 else 0) :=
  countP_modify (fun job : Job => job.phase.isFinished) (fun job => { job with phase }) found

theorem length_setPhase (pool : Pool) (build : Nat) (phase : Phase) :
    (pool.setPhase build phase).jobs.length = pool.jobs.length := List.length_modify ..

theorem ended_le (pool : Pool) : pool.ended ≤ pool.jobs.length := List.countP_le_length

end Pool

/-- Every permit is free or held by a build, and every build is active or has ended. -/
structure Balanced (maxConcurrent : Nat) (pool : Pool) : Prop where
  permits : pool.free + pool.held = max 1 maxConcurrent
  active : pool.active + pool.ended = pool.jobs.length

theorem balanced_create (maxConcurrent : Nat) :
    Balanced maxConcurrent (.create maxConcurrent) where
  permits := by simp [Pool.create, Pool.held]
  active := by simp [Pool.create, Pool.ended]

variable {maxConcurrent : Nat} {pool : Pool}

theorem Balanced.dispatch (balanced : Balanced maxConcurrent pool) (settings : Build.Settings)
    (push : Push) (project : ProjectRecord) :
    Balanced maxConcurrent (pool.dispatch settings push project) where
  permits := by
    have before := balanced.permits
    simpa [Pool.dispatch, Pool.held, Phase.isRunning] using before
  active := by
    have before := balanced.active
    simp [Pool.dispatch, Pool.ended, Phase.isFinished] at before ⊢
    omega

/-- A build that starts takes a permit. -/
theorem Balanced.start (balanced : Balanced maxConcurrent pool) {build : Nat} {push : Push}
    {project : ProjectRecord} {steps : Build.Steps BuildState}
    (waits : pool.jobs[build]? = some ⟨push, project, .waiting steps⟩) (free : 0 < pool.free) :
    Balanced maxConcurrent
      { pool.setPhase build (.running steps) with free := pool.free - 1 } where
  permits := by
    have before := balanced.permits
    have held := Pool.held_setPhase waits (.running steps)
    simp [Phase.isRunning] at held
    show pool.free - 1 + (pool.setPhase build (.running steps)).held = _
    omega
  active := by
    have before := balanced.active
    have ended := Pool.ended_setPhase waits (.running steps)
    simp [Phase.isFinished] at ended
    show pool.active + (pool.setPhase build (.running steps)).ended
      = (pool.setPhase build (.running steps)).jobs.length
    rw [ended, Pool.length_setPhase, before]

/-- A build that ends gives its permit back. -/
theorem Balanced.finish (balanced : Balanced maxConcurrent pool) {build : Nat} {push : Push}
    {project : ProjectRecord} {rest : Build.Steps BuildState}
    (runs : pool.jobs[build]? = some ⟨push, project, .running rest⟩) (locks : Locks)
    (state : BuildState) : Balanced maxConcurrent (pool.proceed build locks (.done state)) where
  permits := by
    have before := balanced.permits
    have held := Pool.held_setPhase runs (.finished state)
    simp [Phase.isRunning] at held
    show pool.free + 1 + (pool.setPhase build (.finished state)).held = _
    omega
  active := by
    have before := balanced.active
    have ended := Pool.ended_setPhase runs (.finished state)
    simp [Phase.isFinished] at ended
    -- one more has ended than before, so at least this one was active
    have bound := (pool.setPhase build (.finished state)).ended_le
    have length := pool.length_setPhase build (.finished state)
    show pool.active - 1 + (pool.setPhase build (.finished state)).ended
      = (pool.setPhase build (.finished state)).jobs.length
    omega

/-- A build that goes on keeps its permit. -/
theorem Balanced.proceed (balanced : Balanced maxConcurrent pool) {build : Nat} {push : Push}
    {project : ProjectRecord} {rest : Build.Steps BuildState}
    (runs : pool.jobs[build]? = some ⟨push, project, .running rest⟩) (locks : Locks)
    (rest' : Build.Steps BuildState) : Balanced maxConcurrent (pool.proceed build locks rest') := by
  cases rest' with
  | done state => exact balanced.finish runs locks state
  | ask r next =>
    have held := Pool.held_setPhase runs (.running (.ask r next))
    have ended := Pool.ended_setPhase runs (.running (.ask r next))
    simp [Phase.isRunning] at held
    simp [Phase.isFinished] at ended
    constructor
    · show pool.free + (pool.setPhase build (.running (.ask r next))).held = _
      rw [held, balanced.permits]
    · show pool.active + (pool.setPhase build (.running (.ask r next))).ended
        = (pool.setPhase build (.running (.ask r next))).jobs.length
      rw [ended, Pool.length_setPhase, balanced.active]

theorem Balanced.next {settings : Build.Settings} {after : Pool}
    {builds : List (Push × ProjectRecord)} {answers : List (Nat × Build.Exchange)}
    (balanced : Balanced maxConcurrent pool) (next : Next settings pool builds answers after) :
    Balanced maxConcurrent after := by
  cases next with
  | same => exact balanced
  | dispatched push project => exact balanced.dispatch settings push project
  | started waits free => exact balanced.start waits free
  | stepped runs progress => exact balanced.proceed runs _ _
  | closed => exact ⟨balanced.permits, balanced.active⟩

end BuildHook.Dispatch
