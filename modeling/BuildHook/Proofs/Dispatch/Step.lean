import BuildHook.Dispatch.Course

/-!
# Single moves of a pool

What a move can do to a pool, and to what the builds have been answered. Everything that holds of
all courses is proved from these cases.

## Main results

`Progress` lists what one request of a build can come to, `Next` what one move can do to a pool, and
`Course.after_next` says that they leave nothing out; `Course.Stirs` and `Course.after_stirs` do the
same for the surroundings. `Course.run_keeps` is the induction over a sequence of moves.
-/

namespace BuildHook.Dispatch

open BuildHook.Path (components)
open Procedure

/-- What a build has still to do. -/
def Phase.steps : Phase → Build.Steps BuildState
  | .waiting steps => steps
  | .running rest => rest
  | .finished state => .done state

@[simp] theorem Phase.steps_ofSteps (rest : Build.Steps BuildState) :
    (ofSteps rest).steps = rest := by
  cases rest <;> rfl

/-- What one request of a build can come to: which locks there are after it, and what the build has
been answered then. -/
inductive Progress (build : Nat) : Build.Steps BuildState → Locks → List Build.Exchange →
    Build.Steps BuildState → Locks → Prop
  | ended (state locks) : Progress build (.done state) locks [] (.done state) locks
  | entered {workspace next locks}
      (first : (locks.join (components workspace) build).has (components workspace) build) :
      Progress build (.ask (.enter workspace) next) locks [] (next ())
        (locks.join (components workspace) build)
  | queued {workspace next locks}
      (behind : ¬ (locks.join (components workspace) build).has (components workspace) build) :
      Progress build (.ask (.enter workspace) next) locks [] (.ask (.enter workspace) next)
        (locks.join (components workspace) build)
  | left {workspace next locks} :
      Progress build (.ask (.leave workspace) next) locks [] (next ())
        (locks.leave (components workspace) build)
  | answered {r next locks} (reply) (other : r.kind ≠ .lock) :
      Progress build (.ask r next) locks [⟨r, reply⟩] (next reply) locks
  | unanswered {r next locks} (other : r.kind ≠ .lock) :
      Progress build (.ask r next) locks [] (.ask r next) locks

/-- The answers of one build, as they stand in the log. -/
def entries (build : Nat) (exchanges : List Build.Exchange) : List (Nat × Build.Exchange) :=
  exchanges.map fun x => (build, x)

variable {σ : Type}

theorem Pool.answer?_of_not_lock
    (surroundings : (r : Build.Request) → σ → Option (Build.Reply r) × σ) (build : Nat)
    {r : Build.Request} (other : r.kind ≠ .lock) (locks : Locks) (state : σ) :
    Pool.answer? surroundings build r (locks, state)
      = ((surroundings r state).1, locks, (surroundings r state).2) := by
  cases r <;> first | rfl | exact absurd rfl other

/-- One request of a build, with the surroundings writing down their answers. -/
theorem step_progress (surroundings : Surroundings σ) (build : Nat)
    (rest : Build.Steps BuildState) (locks : Locks) (state : σ)
    (log : List (Nat × Build.Exchange)) :
    ∃ exchanges rest' locks' state',
      rest.step (Pool.answer? (recording surroundings build) build) (locks, state, log)
        = (rest', locks', state', log ++ entries build exchanges)
      ∧ Progress build rest locks exchanges rest' locks' := by
  cases rest with
  | done result => exact ⟨[], _, _, state, by simp [step, entries], .ended result locks⟩
  | ask r next =>
    by_cases hr : r.kind = .lock
    · cases r with
      | enter workspace =>
        by_cases hh : (locks.join (components workspace) build).has (components workspace) build
        · exact ⟨[], _, _, state, by simp [step, Pool.answer?, hh, entries], .entered hh⟩
        · exact ⟨[], _, _, state, by simp [step, Pool.answer?, hh, entries], .queued hh⟩
      | leave workspace => exact ⟨[], _, _, state, by simp [step, Pool.answer?, entries], .left⟩
      | _ => cases hr
    · rw [step_ask, Pool.answer?_of_not_lock _ _ hr, recording]
      cases surroundings build r state with
      | mk reply state' =>
        cases reply with
        | none => exact ⟨[], _, _, state', by simp [entries], .unanswered hr⟩
        | some reply => exact ⟨[⟨r, reply⟩], _, _, state', rfl, .answered reply hr⟩

namespace Pool

@[simp] theorem jobs_proceed (pool : Pool) (build : Nat) (locks : Locks)
    (rest : Build.Steps BuildState) :
    (pool.proceed build locks rest).jobs
      = pool.jobs.modify build fun job => { job with phase := .ofSteps rest } := by
  cases rest <;> rfl

@[simp] theorem locks_proceed (pool : Pool) (build : Nat) (locks : Locks)
    (rest : Build.Steps BuildState) : (pool.proceed build locks rest).locks = locks := by
  cases rest <;> rfl

theorem getElem?_proceed_self {pool : Pool} {build : Nat} {job : Job}
    (found : pool.jobs[build]? = some job) (locks : Locks) (rest : Build.Steps BuildState) :
    (pool.proceed build locks rest).jobs[build]? = some { job with phase := .ofSteps rest } := by
  rw [jobs_proceed, List.getElem?_modify_eq, found, Option.map_eq_map, Option.map_some]

theorem getElem?_proceed_other {build i : Nat} (other : build ≠ i) (pool : Pool) (locks : Locks)
    (rest : Build.Steps BuildState) :
    (pool.proceed build locks rest).jobs[i]? = pool.jobs[i]? := by
  rw [jobs_proceed, List.getElem?_modify_ne _ _ other]

end Pool

/-- What one move can do to a shutdown that finds a pool afterwards. -/
inductive Shutdown.Next (pool : Pool) : Shutdown → Shutdown → Prop
  | same (shutdown) : Next pool shutdown shutdown
  | waits (called) : Next pool (.closing called) (.waiting called)
  | relieved {shutdown called} (unrelieved : shutdown = .closing called ∨ shutdown = .waiting called)
      (down : pool.isDown = true) : Next pool shutdown (.relieved called pool.jobs.length)
  | returned (called relief) :
      Next pool (.relieved called relief)
        (.returned ⟨called, relief, pool.jobs.length, pool.active⟩)

namespace Shutdown.Next

variable {pool : Pool}

theorem notice (pool : Pool) (shutdown : Shutdown) :
    Next pool shutdown (shutdown.notice pool) := by
  cases shutdown with
  | waiting called =>
    cases down : pool.isDown with
    | true =>
      simp only [Shutdown.notice, down, if_true]
      exact .relieved (.inr rfl) down
    | false =>
      simp only [Shutdown.notice, down]
      exact .same _
  | _ => exact .same _

/-- A shutdown that begins to wait may learn at once that its wait is over. -/
theorem await (pool : Pool) (shutdown : Shutdown) :
    Next pool shutdown (shutdown.await.notice pool) := by
  cases shutdown with
  | closing called =>
    cases down : pool.isDown with
    | true =>
      simp only [Shutdown.await, Shutdown.notice, down, if_true]
      exact .relieved (.inl rfl) down
    | false =>
      simp only [Shutdown.await, Shutdown.notice, down]
      exact .waits called
  | _ => exact .notice pool _

theorem wake (pool : Pool) (shutdown : Shutdown) :
    Next pool shutdown ((shutdown.wake pool).notice pool) := by
  cases shutdown with
  | relieved called relief => exact .returned called relief
  | _ => exact .notice pool _

end Shutdown.Next

/-- What one move can do to a pool: which builds it dispatches, and which answers it writes down. -/
inductive Next (settings : Build.Settings) (pool : Pool) : List (Push × ProjectRecord) →
    List (Nat × Build.Exchange) → Pool → Prop
  | same : Next settings pool [] [] pool
  | dispatched (push project) :
      Next settings pool [(push, project)] [] (pool.dispatch settings push project)
  | started {build push project steps}
      (waits : pool.jobs[build]? = some ⟨push, project, .waiting steps⟩) (free : 0 < pool.free) :
      Next settings pool [] []
        { pool.setPhase build (.running steps) with free := pool.free - 1 }
  | stepped {build push project rest exchanges rest' locks'}
      (runs : pool.jobs[build]? = some ⟨push, project, .running rest⟩)
      (progress : Progress build rest pool.locks exchanges rest' locks') :
      Next settings pool [] (entries build exchanges) (pool.proceed build locks' rest')
  | closed : Next settings pool [] [] pool.close

namespace Course

variable (settings : Build.Settings) (surroundings : Surroundings σ)

/-- Every move does one of these things to the pool. -/
theorem after_next (course : Course σ) (move : Move σ) :
    ∃ answers, (course.after settings surroundings move).log = course.log ++ answers
      ∧ Next settings course.pool move.builds answers
        (course.after settings surroundings move).pool := by
  cases move with
  | dispatch push project => exact ⟨[], by simp [after, moved], .dispatched push project⟩
  | start build =>
    refine ⟨[], by simp [after, moved], ?_⟩
    simp only [after, moved, Pool.startBuild?, Move.builds]
    split
    · next push project steps waits =>
      split
      · next free => exact .started waits free
      · exact .same
    · exact .same
  | step build =>
    simp only [after, moved, Pool.stepBuild, Move.builds]
    split
    · next push project rest runs =>
      obtain ⟨exchanges, rest', locks', state', hs, progress⟩ :=
        step_progress surroundings build rest course.pool.locks course.state course.log
      rw [hs]
      exact ⟨entries build exchanges, rfl, .stepped runs progress⟩
    · exact ⟨[], by simp, .same⟩
  | change f => exact ⟨[], by simp [after, moved], .same⟩
  | close => exact ⟨[], by simp [after, moved], .closed⟩
  | await shutdown => exact ⟨[], by simp [after, moved], .same⟩
  | wake shutdown => exact ⟨[], by simp [after, moved], .same⟩

/-- What one move can do to the surroundings: a build asks them for something, and their answer is
written down if there is one, or they change by themselves, or they stay as they are. -/
inductive Stirs (surroundings : Surroundings σ) (course after : Course σ) : Move σ → Prop
  | asked {build push project r next}
      (runs : course.pool.jobs[build]? = some ⟨push, project, .running (.ask r next)⟩)
      (other : r.kind ≠ .lock) (state : after.state = (surroundings build r course.state).2)
      (log : after.log = course.log ++ entries build
        ((surroundings build r course.state).1.map fun reply => ⟨r, reply⟩).toList) :
      Stirs surroundings course after (.step build)
  | changed {f} (state : after.state = f course.state) (log : after.log = course.log) :
      Stirs surroundings course after (.change f)
  | still {move} (state : after.state = course.state) (log : after.log = course.log) :
      Stirs surroundings course after move

/-- Every move does one of these things to the surroundings. -/
theorem after_stirs (course : Course σ) (move : Move σ) :
    Stirs surroundings course (course.after settings surroundings move) move := by
  cases move with
  | step build =>
    simp only [after, moved, Pool.stepBuild]
    split
    · next push project rest runs =>
      cases rest with
      | done result => exact .still rfl rfl
      | ask r next =>
        by_cases lock : r.kind = .lock
        · rw [step_ask]
          cases r with
          | enter workspace => exact .still rfl rfl
          | leave workspace => exact .still rfl rfl
          | _ => cases lock
        · rw [step_ask, Pool.answer?_of_not_lock _ _ lock]
          refine .asked runs lock ?_ ?_
          all_goals
            simp only [recording]
            cases surroundings build r course.state with
            | mk reply state => cases reply <;> simp [entries]
    · exact .still rfl rfl
  | change f => exact .changed rfl rfl
  | _ => exact .still rfl rfl

/-- Every move leaves each shutdown behind as one that it has begun, or takes it to its next stage or
none. -/
theorem after_shutdowns (course : Course σ) (move : Move σ) {i : Nat} {shutdown : Shutdown}
    (found : (course.after settings surroundings move).shutdowns[i]? = some shutdown) :
    shutdown = .closing (course.after settings surroundings move).pool.jobs.length
    ∨ ∃ before, course.shutdowns[i]? = some before
      ∧ before.Next (course.after settings surroundings move).pool shutdown := by
  obtain ⟨last, here, rfl⟩ : ∃ last,
      (course.moved settings surroundings move).shutdowns[i]? = some last
      ∧ last.notice (course.moved settings surroundings move).pool = shutdown := by
    simpa [after] using found
  cases move with
  | close =>
    rcases Nat.lt_or_ge i course.shutdowns.length with old | new
    · rw [moved, List.getElem?_append_left old] at here
      exact .inr ⟨_, here, .notice _ _⟩
    · rw [moved, List.getElem?_append_right new, List.getElem?_singleton] at here
      split at here
      · cases here
        exact .inl rfl
      · cases here
  | await number =>
    obtain ⟨before, was, rfl⟩ : ∃ before, course.shutdowns[i]? = some before
        ∧ (if number = i then before.await else before) = last := by
      simpa [moved, List.getElem?_modify] using here
    refine .inr ⟨before, was, ?_⟩
    split
    · exact .await _ before
    · exact .notice _ before
  | wake number =>
    obtain ⟨before, was, rfl⟩ : ∃ before, course.shutdowns[i]? = some before
        ∧ (if number = i then before.wake course.pool else before) = last := by
      simpa [moved, List.getElem?_modify] using here
    refine .inr ⟨before, was, ?_⟩
    split
    · exact .wake _ before
    · exact .notice _ before
  | _ => exact .inr ⟨_, here, .notice _ _⟩

/-- What holds at the beginning and is kept by every move holds after all moves. -/
theorem run_keeps (kept : Course σ → Prop)
    (step : ∀ course move, kept course → kept (course.after settings surroundings move))
    (course : Course σ) (moves : List (Move σ)) (start : kept course) :
    kept (course.run settings surroundings moves) := by
  induction moves generalizing course with
  | nil => exact start
  | cons move moves ih => exact ih _ (step course move start)

theorem run_append (course : Course σ) (first second : List (Move σ)) :
    course.run settings surroundings (first ++ second)
      = (course.run settings surroundings first).run settings surroundings second :=
  List.foldl_append

end Course

end BuildHook.Dispatch
