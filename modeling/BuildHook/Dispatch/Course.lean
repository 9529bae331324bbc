import BuildHook.Dispatch.Pool

/-!
# Courses of a pool

Whatever happens to a pool is a sequence of moves: builds are dispatched, get permits and make their
requests in any order, the surroundings change, and the pool is shut down. A course keeps, beside
the pool and the surroundings, which build was answered what, and how far each shutdown has come.
-/

namespace BuildHook.Dispatch

/-- Something that happens to a pool or to its surroundings. A shutdown closes the pool, begins to
wait, and returns; the shutdowns are numbered in the order in which they are called. -/
inductive Move (σ : Type) where
  | dispatch (push : Push) (project : ProjectRecord)
  | start (build : Nat)
  | step (build : Nat)
  | change (f : σ → σ)
  | close
  | await (shutdown : Nat)
  | wake (shutdown : Nat)

/-- The builds that a move dispatches. -/
def Move.builds {σ : Type} : Move σ → List (Push × ProjectRecord)
  | .dispatch push project => [(push, project)]
  | _ => []

/-- What was the case when a shutdown returned: how many builds had been dispatched when it was
called, when its wait was over and by then, and how many builds were active. -/
structure Farewell where
  called : Nat
  relief : Nat
  dispatched : Nat
  active : Nat

/-- How far a shutdown has come: it has closed the pool; it waits; its wait is over; it has returned.
The numbers are those of the builds dispatched when it was called and when its wait was over. -/
inductive Shutdown where
  | closing (called : Nat)
  | waiting (called : Nat)
  | relieved (called relief : Nat)
  | returned (farewell : Farewell)

namespace Shutdown

/-- A shutdown begins to wait. -/
def await : Shutdown → Shutdown
  | .closing called => .waiting called
  | shutdown => shutdown

/-- The wait of a shutdown is over as soon as the pool is closed and no build is active, whatever
happens until it returns. -/
def notice (pool : Pool) : Shutdown → Shutdown
  | .waiting called =>
    if pool.isDown then .relieved called pool.jobs.length else .waiting called
  | shutdown => shutdown

/-- A shutdown returns if its wait is over. -/
def wake (pool : Pool) : Shutdown → Shutdown
  | .relieved called relief => .returned ⟨called, relief, pool.jobs.length, pool.active⟩
  | shutdown => shutdown

end Shutdown

/-- What has become of a pool and its surroundings. -/
structure Course (σ : Type) where
  pool : Pool
  state : σ
  log : List (Nat × Build.Exchange)
  shutdowns : List Shutdown

/-- What answers the requests of each build, or lets it wait. -/
abbrev Surroundings (σ : Type) :=
  Nat → (r : Build.Request) → σ → Option (Build.Reply r) × σ

/-- The same surroundings, which write their answers down. -/
def recording {σ : Type} (surroundings : Surroundings σ) :
    Surroundings (σ × List (Nat × Build.Exchange)) :=
  fun build r (state, log) =>
    match surroundings build r state with
    | (some reply, state) => (some reply, (state, log ++ [(build, ⟨r, reply⟩)]))
    | (none, state) => (none, (state, log))

namespace Course

variable {σ : Type}

/-- A pool to which nothing has happened. -/
def create (maxConcurrent : Nat) (state : σ) : Course σ := ⟨.create maxConcurrent, state, [], []⟩

/-- What one more move does by itself. A move that cannot be made changes nothing. -/
def moved (settings : Build.Settings) (surroundings : Surroundings σ) (course : Course σ) :
    Move σ → Course σ
  | .dispatch push project => { course with pool := course.pool.dispatch settings push project }
  | .start build => { course with pool := (course.pool.startBuild? build).getD course.pool }
  | .step build =>
    let (pool, state, log) :=
      course.pool.stepBuild (recording surroundings) (course.state, course.log) build
    { course with pool, state, log }
  | .change f => { course with state := f course.state }
  | .close =>
    { course with
      pool := course.pool.close
      shutdowns := course.shutdowns ++ [.closing course.pool.jobs.length] }
  | .await shutdown => { course with shutdowns := course.shutdowns.modify shutdown .await }
  | .wake shutdown =>
    { course with shutdowns := course.shutdowns.modify shutdown (.wake course.pool) }

/-- The course after one more move. Whoever waits for the end of a shutdown learns of it at once. -/
def after (settings : Build.Settings) (surroundings : Surroundings σ) (course : Course σ)
    (move : Move σ) : Course σ :=
  let next := course.moved settings surroundings move
  { next with shutdowns := next.shutdowns.map (.notice next.pool) }

/-- The course after a sequence of moves. -/
def run (settings : Build.Settings) (surroundings : Surroundings σ) (course : Course σ)
    (moves : List (Move σ)) : Course σ :=
  moves.foldl (after settings surroundings) course

/-- What a build was answered, in order, apart from the lock of its workspace. -/
def calls (course : Course σ) (build : Nat) : List Build.Exchange :=
  (course.log.filter fun entry => entry.1 == build).map (·.2)

end Course

end BuildHook.Dispatch
