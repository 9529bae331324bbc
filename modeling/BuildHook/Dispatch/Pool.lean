import BuildHook.Build.Run
import BuildHook.Dispatch.Locks

/-!
# Build pools

Every accepted push becomes one build of a pool. A build runs while it has one of a fixed number of
permits, and gives it back when it ends; until there is a free one it waits. Builds of one workspace
take turns by its lock. A pool that is closed is being shut down, which is over once no build is
left.
-/

namespace BuildHook.Dispatch

/-- How far a build has come. -/
inductive Phase where
  | waiting (steps : Build.Steps BuildState)
  | running (rest : Build.Steps BuildState)
  | finished (state : BuildState)

namespace Phase

/-- Whether a build has a permit. -/
def isRunning : Phase → Bool
  | .running _ => true
  | _ => false

/-- Whether a build has come to its end. -/
def isFinished : Phase → Bool
  | .finished _ => true
  | _ => false

/-- Whether a build waits for a permit. -/
def isWaiting : Phase → Bool
  | .waiting _ => true
  | _ => false

/-- The phase of a build that has a permit, by what is left of it. -/
def ofSteps : Build.Steps BuildState → Phase
  | .done state => .finished state
  | rest => .running rest

end Phase

/-- A dispatched build: what is built, and how far that has come. -/
structure Job where
  push : Push
  project : ProjectRecord
  phase : Phase

/-- A pool: the permits that no build has, how many builds are counted as active, whether it is
closed, all builds in the order in which they were dispatched, and the locks of their workspaces. -/
structure Pool where
  free : Nat
  active : Nat
  closed : Bool
  jobs : List Job
  locks : Locks

namespace Pool

/-- An empty pool. At least one build may always run. -/
def create (maxConcurrent : Nat) : Pool := ⟨max 1 maxConcurrent, 0, false, [], .empty⟩

/-- Adds a build, which gets the next number. -/
def dispatch (pool : Pool) (settings : Build.Settings) (push : Push) (project : ProjectRecord) :
    Pool :=
  { pool with
    active := pool.active + 1
    jobs := pool.jobs ++ [⟨push, project, .waiting (Build.run settings push project)⟩] }

/-- Closes the pool, with which its shutdown begins. Builds can still be dispatched. -/
def close (pool : Pool) : Pool := { pool with closed := true }

/-- Whether the pool is closed and no build is active, which is what a shutdown waits for. -/
def isDown (pool : Pool) : Bool := pool.closed && pool.active == 0

/-- The build that gets the next permit. -/
def nextWaiting? (pool : Pool) : Option Nat := pool.jobs.findIdx? fun job => job.phase.isWaiting

/-- Sets the phase of a build. -/
def setPhase (pool : Pool) (build : Nat) (phase : Phase) : Pool :=
  { pool with jobs := pool.jobs.modify build fun job => { job with phase } }

/-- Gives a free permit to a build that waits for one. -/
def startBuild? (pool : Pool) (build : Nat) : Option Pool :=
  match pool.jobs[build]? with
  | some ⟨_, _, .waiting steps⟩ =>
    if 0 < pool.free then
      some { pool.setPhase build (.running steps) with free := pool.free - 1 }
    else none
  | _ => none

/-- Gives a free permit to the build that waits longest. -/
def start? (pool : Pool) : Option Pool := pool.nextWaiting?.bind pool.startBuild?

/-- Gives out permits while there are free ones and builds that wait. -/
def startAll (pool : Pool) : Nat → Pool
  | 0 => pool
  | turns + 1 =>
    match pool.start? with
    | some pool => pool.startAll turns
    | none => pool

/-- Answers the requests of a build: those for its workspace by the lock of it, all others by the
surroundings. -/
def answer? {σ : Type} (surroundings : (r : Build.Request) → σ → Option (Build.Reply r) × σ)
    (build : Nat) :
    (r : Build.Request) → Locks × σ → Option (Build.Reply r) × (Locks × σ)
  | .enter workspace, (locks, state) =>
      let locks := locks.join (Path.components workspace) build
      (if locks.has (Path.components workspace) build then some () else none, (locks, state))
  | .leave workspace, (locks, state) =>
      (some (), (locks.leave (Path.components workspace) build, state))
  | r, (locks, state) =>
      let (reply, state) := surroundings r state
      (reply, (locks, state))

/-- Gives back the permit of a build that has come to its end, which counts as active no longer. -/
def retire (pool : Pool) : Pool := { pool with free := pool.free + 1, active := pool.active - 1 }

/-- Notes what is left of a running build. -/
def proceed (pool : Pool) (build : Nat) (locks : Locks) (rest : Build.Steps BuildState) : Pool :=
  let pool := { pool.setPhase build (.ofSteps rest) with locks }
  match rest with
  | .done _ => pool.retire
  | .ask .. => pool

/-- Lets one build make its next request once. -/
def stepBuild {σ : Type}
    (surroundings : Nat → (r : Build.Request) → σ → Option (Build.Reply r) × σ)
    (pool : Pool) (state : σ) (build : Nat) : Pool × σ :=
  match pool.jobs[build]? with
  | some ⟨_, _, .running rest⟩ =>
    let (rest, locks, state) :=
      rest.step (answer? (surroundings build) build) (pool.locks, state)
    (pool.proceed build locks rest, state)
  | _ => (pool, state)

/-- Lets one build go on as far as it can. -/
def advanceBuild {σ : Type}
    (surroundings : Nat → (r : Build.Request) → σ → Option (Build.Reply r) × σ)
    (pool : Pool) (state : σ) (build : Nat) : Pool × σ :=
  match pool.jobs[build]? with
  | some ⟨_, _, .running rest⟩ =>
    let (rest, locks, state) :=
      rest.advance (answer? (surroundings build) build) (pool.locks, state)
    (pool.proceed build locks rest, state)
  | _ => (pool, state)

/-- Lets some builds go on as far as they can, one after the other. -/
def advanceEach {σ : Type}
    (surroundings : Nat → (r : Build.Request) → σ → Option (Build.Reply r) × σ) :
    List Nat → Pool → σ → Pool × σ
  | [], pool, state => (pool, state)
  | build :: builds, pool, state =>
    let (pool, state) := advanceBuild surroundings pool state build
    advanceEach surroundings builds pool state

/-- Gives out permits and lets every build go on as far as it can. -/
def sweep {σ : Type}
    (surroundings : Nat → (r : Build.Request) → σ → Option (Build.Reply r) × σ)
    (pool : Pool) (state : σ) : Pool × σ :=
  let pool := pool.startAll pool.jobs.length
  advanceEach surroundings (List.range pool.jobs.length) pool state

/-- Sweeps a number of times. -/
def sweeps {σ : Type}
    (surroundings : Nat → (r : Build.Request) → σ → Option (Build.Reply r) × σ) :
    Nat → Pool → σ → Pool × σ
  | 0, pool, state => (pool, state)
  | turns + 1, pool, state =>
    let (pool, state) := sweep surroundings pool state
    sweeps surroundings turns pool state

/-- Lets all builds go on until none can. A sweep that changes nothing is the last one needed; each
other one starts a build, lets one into its workspace, or ends one. -/
def settle {σ : Type}
    (surroundings : Nat → (r : Build.Request) → σ → Option (Build.Reply r) × σ)
    (pool : Pool) (state : σ) : Pool × σ :=
  sweeps surroundings (3 * pool.jobs.length + 1) pool state

end Pool

end BuildHook.Dispatch
