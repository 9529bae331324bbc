import BuildHook.Proofs.Build.Veil
import BuildHook.Proofs.Dispatch.Step
import BuildHook.Proofs.List.Entries

/-!
# Pools under a veil

Two pools whose builds are pairwise the same under a veil stay so through the same moves, as long as
their surroundings answer the same to what is asked the same. Who gets a permit or a lock, and what
stands in the log, then differs at most behind the veil.

## Main results

`Course.Same.after` is about a single move.
-/

namespace BuildHook

open Build (Veil)

namespace Dispatch

/-- What is asked of the surroundings, and the answer if there is one. -/
structure Consultation where
  request : Build.Request
  reply : Option (Build.Reply request)

/-- What a build asks of its surroundings when it goes on. -/
def consult {σ : Type} (surroundings : Surroundings σ) (build : Nat) (state : σ) :
    Build.Steps BuildState → Option Consultation
  | .done _ => none
  | .ask r _ => if r.kind = .lock then none else some ⟨r, (surroundings build r state).1⟩

/-- What is asked of the surroundings in a move. -/
def Course.consulted? {σ : Type} (surroundings : Surroundings σ) (course : Course σ) :
    Move σ → Option Consultation
  | .step build =>
    match course.pool.jobs[build]? with
    | some ⟨_, _, .running rest⟩ => consult surroundings build course.state rest
    | _ => none
  | _ => none

/-- Two moves that are the same for the builds, and dispatch none. -/
inductive Move.Same {σ τ : Type} : Move σ → Move τ → Prop
  | start (build : Nat) : Same (.start build) (.start build)
  | step (build : Nat) : Same (.step build) (.step build)
  | change (f : σ → σ) (f' : τ → τ) : Same (.change f) (.change f')
  | close : Same .close .close
  | await (shutdown : Nat) : Same (.await shutdown) (.await shutdown)
  | wake (shutdown : Nat) : Same (.wake shutdown) (.wake shutdown)

end Dispatch

namespace Build.Veil

open Dispatch

/-- Whether the surroundings answer the same, if they are asked the same. -/
def SameAnswer (veil : Veil) : Option Consultation → Option Consultation → Prop
  | some first, some second =>
    first.request.veiled veil = second.request.veiled veil →
      (first.reply.map fun reply => veil.exchange ⟨first.request, reply⟩)
        = second.reply.map fun reply => veil.exchange ⟨second.request, reply⟩
  | _, _ => True

/-- An entry of a log under a veil. -/
def entry (veil : Veil) (x : Nat × Exchange) : Nat × Exchange := (x.1, veil.exchange x.2)

end Build.Veil

namespace Dispatch

/-- Two builds that have come equally far and go on the same under a veil. -/
inductive Phase.Same (veil : Veil) : Phase → Phase → Prop
  | waiting {steps steps'} (same : veil.Same steps steps') :
      Same veil (.waiting steps) (.waiting steps')
  | running {rest rest'} (same : veil.Same rest rest') : Same veil (.running rest) (.running rest')
  | finished (state) : Same veil (.finished state) (.finished state)

/-- Two pools with builds that are pairwise the same under a veil. -/
structure Pool.Same (veil : Veil) (pool pool' : Pool) : Prop where
  free : pool.free = pool'.free
  active : pool.active = pool'.active
  closed : pool.closed = pool'.closed
  locks : pool.locks = pool'.locks
  jobs : List.Forall₂ (fun job job' => job.phase.Same veil job'.phase) pool.jobs pool'.jobs

/-- Two courses that are the same under a veil. -/
structure Course.Same {σ τ : Type} (veil : Veil) (course : Course σ) (course' : Course τ) :
    Prop where
  pool : course.pool.Same veil course'.pool
  log : course.log.map veil.entry = course'.log.map veil.entry
  shutdowns : course.shutdowns = course'.shutdowns

variable {veil : Veil} {σ τ : Type}

theorem Phase.same_ofSteps {rest rest' : Build.Steps BuildState} (same : veil.Same rest rest') :
    (ofSteps rest).Same veil (ofSteps rest') := by
  cases same with
  | done state => exact .finished state
  | ask same tail => exact .running (.ask same tail)

namespace Pool.Same

variable {pool pool' : Pool} (same : pool.Same veil pool')

include same

/-- The same build in both pools, if there is one. -/
theorem phases (build : Nat) :
    (pool.jobs[build]? = none ∧ pool'.jobs[build]? = none)
    ∨ ∃ job job', pool.jobs[build]? = some job ∧ pool'.jobs[build]? = some job'
      ∧ job.phase.Same veil job'.phase := by
  have both := rel_getElem? same.jobs build
  revert both
  cases pool.jobs[build]? <;> cases pool'.jobs[build]? <;> intro both <;> cases both
  · exact .inl ⟨rfl, rfl⟩
  · next phases => exact .inr ⟨_, _, rfl, rfl, phases⟩

theorem setPhase {phase phase' : Phase} (phases : phase.Same veil phase') (build : Nat) :
    (pool.setPhase build phase).Same veil (pool'.setPhase build phase') :=
  { same with jobs := forall₂_modify same.jobs (fun _ _ _ => phases) build }

/-- Builds that are the same under the veil are dispatched alike. -/
theorem dispatch {project project' : ProjectRecord} (keys : veil.SameKeys project project')
    (settings : Build.Settings) (push : Push) :
    (pool.dispatch settings push project).Same veil (pool'.dispatch settings push project') where
  free := same.free
  active := congrArg (· + 1) same.active
  closed := same.closed
  locks := same.locks
  jobs := List.rel_append same.jobs (.cons (.waiting (Build.run_same settings push keys)) .nil)

theorem startBuild (build : Nat) :
    ((pool.startBuild? build).getD pool).Same veil ((pool'.startBuild? build).getD pool') := by
  unfold startBuild?
  rcases same.phases build with ⟨missing, missing'⟩ | ⟨job, job', found, found', phases⟩
  · rw [missing, missing']
    exact same
  · obtain ⟨push, project, phase⟩ := job
    obtain ⟨push', project', phase'⟩ := job'
    rw [found, found']
    cases phases with
    | waiting steps =>
      simp only [same.free]
      split
      · exact { same.setPhase (.running steps) build with free := rfl }
      · exact same
    | running rest => exact same
    | finished state => exact same

theorem proceed {rest rest' : Build.Steps BuildState} (left : veil.Same rest rest') (build : Nat)
    (locks : Locks) :
    (pool.proceed build locks rest).Same veil (pool'.proceed build locks rest') := by
  have phases := Phase.same_ofSteps left
  cases left with
  | done state =>
    exact { same.setPhase phases build with
      free := congrArg (· + 1) same.free, active := congrArg (· - 1) same.active, locks := rfl }
  | ask asked tail => exact { same.setPhase phases build with locks := rfl }

end Pool.Same

/-- Two builds after a step, with the locks, their surroundings and what stands in the logs. -/
def Abreast (veil : Veil)
    (first : Build.Steps BuildState × Locks × σ × List (Nat × Build.Exchange))
    (second : Build.Steps BuildState × Locks × τ × List (Nat × Build.Exchange)) : Prop :=
  veil.Same first.1 second.1 ∧ first.2.1 = second.2.1
    ∧ first.2.2.2.map veil.entry = second.2.2.2.map veil.entry

theorem veiled_of_lock {r : Build.Request} (lock : r.kind = .lock) : r.veiled veil = r := by
  cases r <;> first | rfl | cases lock

section Step

variable (surroundings : Surroundings σ) (surroundings' : Surroundings τ) (build : Nat)
  (locks : Locks) (state : σ) (state' : τ) {log log' : List (Nat × Build.Exchange)}
  (logs : log.map veil.entry = log'.map veil.entry)

include logs

/-- Two builds are served alike by the same lock. -/
theorem step_lock {r : Build.Request} (lock : r.kind = .lock)
    {next next' : Build.Reply r → Build.Steps BuildState}
    (tail : ∀ reply, veil.Same (next reply) (next' reply)) :
    Abreast veil
      ((Procedure.ask r next).step (Pool.answer? (recording surroundings build) build)
        (locks, state, log))
      ((Procedure.ask r next').step (Pool.answer? (recording surroundings' build) build)
        (locks, state', log')) := by
  rw [Procedure.step_ask, Procedure.step_ask]
  cases r with
  | enter workspace =>
    simp only [Pool.answer?]
    split
    · exact ⟨tail (), rfl, logs⟩
    · refine ⟨.ask rfl fun reply reply' _ => tail reply, rfl, logs⟩
  | leave workspace => exact ⟨tail (), rfl, logs⟩
  | _ => cases lock

/-- Two builds that ask their surroundings the same go on the same if they are answered the same. -/
theorem step_other {r r' : Build.Request} (other : r.kind ≠ .lock) (other' : r'.kind ≠ .lock)
    {next : Build.Reply r → Build.Steps BuildState}
    {next' : Build.Reply r' → Build.Steps BuildState}
    (same : veil.Same (.ask r next) (.ask r' next'))
    (answers : veil.SameAnswer (some ⟨r, (surroundings build r state).1⟩)
      (some ⟨r', (surroundings' build r' state').1⟩)) :
    Abreast veil
      ((Procedure.ask r next).step (Pool.answer? (recording surroundings build) build)
        (locks, state, log))
      ((Procedure.ask r' next').step (Pool.answer? (recording surroundings' build) build)
        (locks, state', log')) := by
  obtain ⟨asked, tail⟩ : r.veiled veil = r'.veiled veil ∧ ∀ reply reply',
      veil.exchange ⟨r, reply⟩ = veil.exchange ⟨r', reply'⟩ →
        veil.Same (next reply) (next' reply') := by
    cases same with
    | ask asked tail => exact ⟨asked, tail⟩
  have replies : ((surroundings build r state).1.map fun reply => veil.exchange ⟨r, reply⟩)
      = (surroundings' build r' state').1.map fun reply => veil.exchange ⟨r', reply⟩ :=
    answers asked
  rw [Procedure.step_ask, Procedure.step_ask, Pool.answer?_of_not_lock _ _ other,
    Pool.answer?_of_not_lock _ _ other', recording, recording]
  generalize surroundings build r state = first at replies
  generalize surroundings' build r' state' = second at replies
  obtain ⟨reply, state⟩ := first
  obtain ⟨reply', state'⟩ := second
  cases reply with
  | none =>
    obtain rfl := Option.map_eq_none_iff.mp replies.symm
    exact ⟨same, rfl, logs⟩
  | some reply =>
    obtain ⟨reply', rfl, exchanges⟩ := Option.map_eq_some_iff.mp replies.symm
    refine ⟨tail reply reply' exchanges.symm, rfl, ?_⟩
    rw [List.map_append, List.map_append, logs]
    simp [Veil.entry, exchanges]

/-- Two builds that are the same stay so when both go on, if they are answered the same. -/
theorem step_same {rest rest' : Build.Steps BuildState} (same : veil.Same rest rest')
    (answers : veil.SameAnswer (consult surroundings build state rest)
      (consult surroundings' build state' rest')) :
    Abreast veil
      (rest.step (Pool.answer? (recording surroundings build) build) (locks, state, log))
      (rest'.step (Pool.answer? (recording surroundings' build) build) (locks, state', log')) := by
  cases same with
  | done state => exact ⟨.done state, rfl, logs⟩
  | @ask r r' next next' asked tail =>
    have kinds : r.kind = r'.kind := by
      rw [← Build.kind_veiled veil r, asked, Build.kind_veiled]
    by_cases lock : r.kind = .lock
    -- A lock is not behind the veil, so both builds ask for the very same one.
    · have asked_same : r = r' := by
        rw [← veiled_of_lock lock, asked, veiled_of_lock (kinds ▸ lock)]
      subst asked_same
      exact step_lock surroundings surroundings' build locks state state' logs lock
        fun reply => tail reply reply rfl
    · rw [consult, if_neg lock, consult, if_neg (kinds ▸ lock)] at answers
      exact step_other surroundings surroundings' build locks state state' logs lock
        (kinds ▸ lock) (.ask asked tail) answers

end Step

theorem Course.Same.withPool {course : Course σ} {course' : Course τ}
    (same : course.Same veil course') {pool pool' : Pool} (pools : pool.Same veil pool') :
    { course with pool }.Same veil { course' with pool := pool' } :=
  ⟨pools, same.log, same.shutdowns⟩

/-- Shutdowns learn the same of pools that are the same. -/
theorem Pool.Same.notice {pool pool' : Pool} (same : pool.Same veil pool') :
    Shutdown.notice pool = Shutdown.notice pool' := by
  have down : pool.isDown = pool'.isDown := by
    rw [Pool.isDown, Pool.isDown, same.closed, same.active]
  funext shutdown
  cases shutdown with
  | waiting called => rw [Shutdown.notice, Shutdown.notice, down, same.jobs.length_eq]
  | _ => rfl

theorem Pool.Same.wake {pool pool' : Pool} (same : pool.Same veil pool') :
    Shutdown.wake pool = Shutdown.wake pool' := by
  funext shutdown
  cases shutdown with
  | relieved called relief => rw [Shutdown.wake, Shutdown.wake, same.active, same.jobs.length_eq]
  | _ => rfl

/-- What a move does by itself is the same for both. -/
theorem Course.Same.moved {course : Course σ} {course' : Course τ}
    (same : course.Same veil course') (settings : Build.Settings) (surroundings : Surroundings σ)
    (surroundings' : Surroundings τ) {move : Move σ} {move' : Move τ} (moves : move.Same move')
    (answers : veil.SameAnswer (course.consulted? surroundings move)
      (course'.consulted? surroundings' move')) :
    (course.moved settings surroundings move).Same veil
      (course'.moved settings surroundings' move') := by
  cases moves with
  | start build => exact { same with pool := same.pool.startBuild build }
  | change f f' => exact { same with }
  | close =>
    have builds := same.pool.jobs.length_eq
    exact {
      pool := { same.pool with closed := rfl }
      log := same.log
      shutdowns := by simp only [Course.moved, same.shutdowns, builds] }
  | await shutdown =>
    exact { same with shutdowns := by simp only [Course.moved, same.shutdowns] }
  | wake shutdown =>
    exact { same with shutdowns := by simp only [Course.moved, same.shutdowns, same.pool.wake] }
  | step build =>
    simp only [Course.moved, Pool.stepBuild]
    rcases same.pool.phases build with ⟨missing, missing'⟩ | ⟨job, job', found, found', phases⟩
    · rw [missing, missing']
      exact same
    · obtain ⟨push, project, phase⟩ := job
      obtain ⟨push', project', phase'⟩ := job'
      simp only [Course.consulted?, found, found'] at answers
      rw [found, found']
      cases phases with
      | waiting steps => exact same
      | finished state => exact same
      | running rest =>
        obtain ⟨left, locks, logs⟩ := step_same surroundings surroundings' build course.pool.locks
          course.state course'.state same.log rest answers
        simp only
        rw [← same.pool.locks, ← locks]
        exact ⟨same.pool.proceed left build _, logs, same.shutdowns⟩

/-- A move that is the same for both keeps two courses the same, if their surroundings answer the
same to what is asked the same in it. -/
theorem Course.Same.after {course : Course σ} {course' : Course τ}
    (same : course.Same veil course') (settings : Build.Settings) (surroundings : Surroundings σ)
    (surroundings' : Surroundings τ) {move : Move σ} {move' : Move τ} (moves : move.Same move')
    (answers : veil.SameAnswer (course.consulted? surroundings move)
      (course'.consulted? surroundings' move')) :
    (course.after settings surroundings move).Same veil
      (course'.after settings surroundings' move') := by
  have moved := same.moved settings surroundings surroundings' moves answers
  have shutdowns : (course.after settings surroundings move).shutdowns
      = (course'.after settings surroundings' move').shutdowns := by
    rw [Course.after, Course.after, moved.shutdowns, moved.pool.notice]
  exact { moved with shutdowns }

end Dispatch

end BuildHook
