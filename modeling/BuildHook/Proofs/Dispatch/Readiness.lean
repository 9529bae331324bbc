import BuildHook.Proofs.Dispatch.Accounting
import BuildHook.Proofs.Dispatch.Exclusion
import BuildHook.Proofs.Dispatch.Serial
import Mathlib.Logic.Hydra

/-!
# Builds that can go on

A build takes a permit first and the lock of its workspace second, and keeps the permit while it
waits for the lock. No circle can come of this: whoever stands before a lock has a permit, and the
first before a lock can go on. So while a build is left, some build lacks neither; and once all
calls are answered, the builds of a pool can always be brought to their ends.

## Main results

`Pool.exists_ready` finds a build that can go on, `Ready.proceeds` is the move that it makes, and
`Course.run_deadlockFree` says that no course leads to a standstill.
-/

namespace BuildHook.Dispatch

open Build (Guarded span_enter)
open BuildHook.Path (components)
open Procedure

variable {σ : Type}

/-- The workspace that a build asks to enter. -/
def Job.asked? (job : Job) : Option String :=
  match job.phase with
  | .running (.ask (.enter workspace) _) => some workspace
  | _ => none

theorem Job.asked?_eq_some_iff {job : Job} {workspace : String} :
    job.asked? = some workspace ↔ job.Enters workspace := by
  unfold asked? Enters
  split
  · next asked next phase =>
    constructor
    · rintro ⟨⟩
      exact ⟨next, phase⟩
    · rintro ⟨next', same⟩
      cases phase.symm.trans same
      rfl
  · next other => simpa using other workspace

/-- Whether a build waits for a permit, and none is free. -/
def Pool.LacksPermit (pool : Pool) (job : Job) : Prop :=
  job.phase.isWaiting = true ∧ pool.free = 0

/-- Whether a build asks to enter its workspace, and another one is before it in the line. -/
def Pool.LacksWorkspace (pool : Pool) (build : Nat) (job : Job) : Prop :=
  ∃ workspace ∈ job.asked?,
    ¬ (pool.locks.join (components workspace) build).has (components workspace) build

/-- A build that has not come to its end and waits neither for a permit nor for its workspace. -/
structure Pool.Ready (pool : Pool) (build : Nat) (job : Job) : Prop where
  found : pool.jobs[build]? = some job
  unfinished : job.phase.isFinished = false
  permit : ¬ pool.LacksPermit job
  workspace : ¬ pool.LacksWorkspace build job

/-- Whether the call that a build is in, if it is in one, is not held back. -/
def Job.IsAnswered (surroundings : Surroundings σ) (state : σ) (build : Nat) (job : Job) : Prop :=
  ∀ r next, job.phase = .running (.ask r next) → r.kind ≠ .lock →
    (surroundings build r state).1.isSome = true

/-- How a build comes from one phase to the next. -/
inductive Phase.Precedes : Phase → Phase → Prop
  | started (steps) : Precedes (.waiting steps) (.running steps)
  | answered (r next reply) : Precedes (.running (.ask r next)) (.ofSteps (next reply))
  | ended (state) : Precedes (.running (.done state)) (.finished state)

/-- Whether there is a move that takes a build to a next phase and leaves all others where they
are. -/
def Course.Proceeds (settings : Build.Settings) (surroundings : Surroundings σ)
    (course : Course σ) (build : Nat) : Prop :=
  ∃ job phase move, course.pool.jobs[build]? = some job ∧ job.phase.Precedes phase
    ∧ (move = .step build ∨ job.phase.isWaiting = true ∧ move = .start build)
    ∧ (course.after settings surroundings move).pool.jobs
      = course.pool.jobs.modify build fun job => { job with phase }

/-- Surroundings that hold no call back. -/
def Answering (surroundings : Surroundings σ) : Prop :=
  ∀ build r state, r.kind ≠ .lock → (surroundings build r state).1.isSome = true

variable {settings : Build.Settings} {surroundings : Surroundings σ}

section Pool

variable {pool : Pool} {i : Nat} {job : Job}

/-- Whoever stands before a lock has a permit. -/
theorem Orderly.running_of_mem_line (orderly : Orderly settings pool) {place : Place}
    (member : i ∈ pool.locks.line place) :
    ∃ job, pool.jobs[i]? = some job ∧ job.phase.isRunning = true := by
  obtain ⟨job, workspace, rest, found, -, -, running, -⟩ := orderly.queued member
  exact ⟨job, found, by rw [running]; rfl⟩

/-- The first before a lock can go on: it is in the workspace, or gets in. -/
theorem Orderly.ready_of_first (orderly : Orderly settings pool) {place : Place}
    (first : (pool.locks.line place).head? = some i) :
    ∃ job, pool.Ready i job ∧ job.phase.isRunning = true := by
  obtain ⟨job, workspace, rest, found, hw, rfl, running, facts⟩ :=
    orderly.queued (List.mem_of_head? first)
  refine ⟨job, ⟨found, by rw [running]; rfl, ?_, ?_⟩, by rw [running]; rfl⟩
  · rintro ⟨waiting, -⟩
    rw [running] at waiting
    cases waiting
  · rintro ⟨asked, asks, behind⟩
    obtain ⟨next, asks⟩ := Job.asked?_eq_some_iff.mp asks
    obtain rfl : rest = .ask (.enter asked) next := Phase.running.inj (running.symm.trans asks)
    rcases facts with inside | ⟨next', same⟩
    · obtain ⟨later, hs, -⟩ := inside
      cases (span_enter hs).2.1
    · cases same
      apply behind
      rw [Locks.has_iff]
      exact Locks.head_join first

/-- Whoever lacks its workspace stands behind another build. -/
theorem Pool.LacksWorkspace.first (lacks : pool.LacksWorkspace i job) :
    ∃ workspace j, job.Enters workspace ∧ j ≠ i
      ∧ (pool.locks.line (components workspace)).head? = some j := by
  obtain ⟨workspace, asks, behind⟩ := lacks
  rw [Locks.has_iff, Locks.line_join_self] at behind
  cases line : pool.locks.line (components workspace) with
  | nil =>
    rw [line] at behind
    exact absurd rfl behind
  | cons j others =>
    refine ⟨workspace, j, Job.asked?_eq_some_iff.mp asks, ?_, by rw [line]; rfl⟩
    rintro rfl
    apply behind
    rw [line]
    simp [Locks.queued]

theorem Phase.isWaiting_of_idle {phase : Phase} (unfinished : phase.isFinished = false)
    (idle : phase.isRunning = false) : phase.isWaiting = true := by
  cases phase with
  | waiting steps => rfl
  | running rest => cases idle
  | finished state => cases unfinished

theorem Phase.of_isRunning {phase : Phase} (running : phase.isRunning = true) :
    phase.isFinished = false ∧ phase.isWaiting = false := by
  cases phase with
  | running rest => exact ⟨rfl, rfl⟩
  | _ => cases running

/-- While a build is left, some build can go on; and if it waits for its permit, it is the one that
waits longest. -/
theorem Pool.exists_ready (orderly : Orderly settings pool) {maxConcurrent : Nat}
    (balanced : Balanced maxConcurrent pool)
    (left : ∃ job ∈ pool.jobs, job.phase.isFinished = false) :
    ∃ i job, pool.Ready i job ∧ (job.phase.isWaiting = true → pool.nextWaiting? = some i) := by
  by_cases idle : ∀ job ∈ pool.jobs, job.phase.isRunning = false
  · -- nobody has a permit, so all are free
    have held : pool.held = 0 := List.countP_eq_zero.mpr fun job member => by simp [idle job member]
    have free : pool.free ≠ 0 := by
      have permits := balanced.permits
      omega
    obtain ⟨job, member, unfinished⟩ := left
    have waiting : (pool.jobs.findIdx? fun job => job.phase.isWaiting).isSome := by
      rw [List.findIdx?_isSome, List.any_eq_true]
      exact ⟨job, member, Phase.isWaiting_of_idle unfinished (idle job member)⟩
    obtain ⟨i, longest⟩ := Option.isSome_iff_exists.mp waiting
    obtain ⟨inside, waits, -⟩ := List.findIdx?_eq_some_iff_getElem.mp longest
    refine ⟨i, pool.jobs[i], ⟨List.getElem?_eq_getElem inside, ?_, fun lacks => free lacks.2, ?_⟩,
      fun _ => longest⟩
    · cases phase : pool.jobs[i].phase with
      | finished state => rw [phase] at waits; cases waits
      | _ => rfl
    · rintro ⟨workspace, asks, -⟩
      obtain ⟨next, asks⟩ := Job.asked?_eq_some_iff.mp asks
      rw [asks] at waits
      cases waits
  · obtain ⟨job, member, running⟩ : ∃ job ∈ pool.jobs, job.phase.isRunning = true := by
      simpa using idle
    obtain ⟨i, found⟩ := List.mem_iff_getElem?.mp member
    have moving {i job} (ready : pool.Ready i job) (running : job.phase.isRunning = true) :
        ∃ i job, pool.Ready i job ∧ (job.phase.isWaiting = true → pool.nextWaiting? = some i) := by
      refine ⟨i, job, ready, ?_⟩
      rw [(Phase.of_isRunning running).2]
      exact fun waiting => absurd waiting Bool.false_ne_true
    by_cases lacks : pool.LacksWorkspace i job
    · obtain ⟨workspace, j, -, -, first⟩ := lacks.first
      obtain ⟨other, ready, running'⟩ := orderly.ready_of_first first
      exact moving ready running'
    · refine moving ⟨found, (Phase.of_isRunning running).1, ?_, lacks⟩ running
      rintro ⟨waiting, -⟩
      exact Bool.false_ne_true ((Phase.of_isRunning running).2.symm.trans waiting)

end Pool

namespace Course

variable {course : Course σ} {i : Nat} {push : Push} {project : ProjectRecord}

theorem after_start {steps : Build.Steps BuildState}
    (waits : course.pool.jobs[i]? = some ⟨push, project, .waiting steps⟩)
    (free : course.pool.free ≠ 0) :
    (course.after settings surroundings (.start i)).pool.jobs
      = course.pool.jobs.modify i fun job => { job with phase := .running steps } := by
  simp [after, moved, Pool.startBuild?, waits, Nat.pos_of_ne_zero free, Pool.setPhase]

theorem after_step {rest rest' : Build.Steps BuildState} {locks : Locks}
    {last : σ × List (Nat × Build.Exchange)}
    (runs : course.pool.jobs[i]? = some ⟨push, project, .running rest⟩)
    (step : rest.step (Pool.answer? (recording surroundings i) i)
      (course.pool.locks, course.state, course.log) = (rest', locks, last)) :
    (course.after settings surroundings (.step i)).pool.jobs
      = course.pool.jobs.modify i fun job => { job with phase := .ofSteps rest' } := by
  simp [after, moved, Pool.stepBuild, runs, step]

end Course

theorem isSome_recording (build : Nat) (r : Build.Request) (state : σ)
    (log : List (Nat × Build.Exchange)) :
    (recording surroundings build r (state, log)).1.isSome
      = (surroundings build r state).1.isSome := by
  simp only [recording]
  split
  · next found => rw [found]
  · next found => rw [found]

/-- A request that is answered takes the build on. -/
theorem step_of_answered {build : Nat} {r : Build.Request}
    (next : Build.Reply r → Build.Steps BuildState) {locks : Locks} {state : σ}
    {log : List (Nat × Build.Exchange)}
    (answered : (Pool.answer? (recording surroundings build) build r
      (locks, state, log)).1.isSome = true) :
    ∃ reply locks' last, (Procedure.ask r next).step
      (Pool.answer? (recording surroundings build) build) (locks, state, log)
        = (next reply, locks', last) := by
  obtain ⟨reply, found⟩ := Option.isSome_iff_exists.mp answered
  exact ⟨reply, _, _, by rw [step_ask, found]; rfl⟩

/-- A build that can go on does so with its next move, unless it is in a call that is held back. -/
theorem Pool.Ready.proceeds {course : Course σ} {i : Nat} {job : Job}
    (ready : course.pool.Ready i job) (answered : job.IsAnswered surroundings course.state i) :
    course.Proceeds settings surroundings i := by
  obtain ⟨found, unfinished, permit, workspace⟩ := ready
  obtain ⟨push, project, phase⟩ := job
  cases phase with
  | finished state => cases unfinished
  | waiting steps =>
    have free : course.pool.free ≠ 0 := fun none_free => permit ⟨rfl, none_free⟩
    exact ⟨_, _, .start i, found, .started steps, .inr ⟨rfl, rfl⟩, Course.after_start found free⟩
  | running rest =>
    cases rest with
    | done state =>
      exact ⟨_, _, .step i, found, .ended state, .inl rfl, Course.after_step found rfl⟩
    | ask r next =>
      have answer : (Pool.answer? (recording surroundings i) i r
          (course.pool.locks, course.state, course.log)).1.isSome = true := by
        by_cases hr : r.kind = .lock
        · cases r with
          | enter place =>
            have first : (course.pool.locks.join (components place) i).has (components place) i
                = true := by
              by_contra behind
              exact workspace ⟨place, rfl, behind⟩
            rw [Pool.answer?, first]
            rfl
          | leave place => rfl
          | _ => cases hr
        · rw [Pool.answer?_of_not_lock _ _ hr]
          exact (isSome_recording i r _ _).trans (answered r next rfl hr)
      obtain ⟨reply, locks, last, step⟩ := step_of_answered next answer
      exact ⟨_, _, .step i, found, .answered r next reply, .inl rfl, Course.after_step found step⟩

/-- No build goes on for ever: each answer leaves a smaller part of it. -/
theorem Phase.precedes_wf : WellFounded fun later phase : Phase => phase.Precedes later := by
  have finished (state : BuildState) : Acc (fun later phase : Phase => phase.Precedes later)
      (.finished state) := ⟨_, fun later next => by cases next⟩
  have running (rest : Build.Steps BuildState) :
      Acc (fun later phase : Phase => phase.Precedes later) (.running rest) := by
    induction rest with
    | done state =>
      refine ⟨_, fun later next => ?_⟩
      cases next
      exact finished state
    | ask r next ih =>
      refine ⟨_, fun later next => ?_⟩
      cases next with
      | answered _ _ reply =>
        cases tail : next reply with
        | done state => exact finished state
        | ask => exact (tail ▸ ih reply :)
  constructor
  intro phase
  cases phase with
  | finished state => exact finished state
  | running rest => exact running rest
  | waiting steps =>
    refine ⟨_, fun later next => ?_⟩
    cases next
    exact running steps

/-- What is left of the builds of a pool, in any order. -/
def Pool.phases (pool : Pool) : Multiset Phase := pool.jobs.map Job.phase

/-- A move with which a build goes on leaves less to do. -/
theorem Pool.phases_cutExpand {pool after : Pool} {i : Nat} {job : Job} {phase : Phase}
    (found : pool.jobs[i]? = some job) (next : job.phase.Precedes phase)
    (jobs : after.jobs = pool.jobs.modify i fun job => { job with phase }) :
    Relation.CutExpand (fun later phase : Phase => phase.Precedes later) after.phases
      pool.phases := by
  refine ⟨{phase}, job.phase, by simpa using next, ?_⟩
  obtain ⟨inside, rfl⟩ := List.getElem?_eq_some_iff.mp found
  have phases : after.jobs.map Job.phase = (pool.jobs.map Job.phase).set i phase := by
    rw [jobs, List.modify_eq_set_get _ inside, List.map_set]
  have exchanged := cons_set_perm (l := pool.jobs.map Job.phase) (by simpa using inside) phase
  rw [List.getElem_map] at exchanged
  rw [Pool.phases, Pool.phases, phases, Multiset.add_comm, Multiset.add_comm _ {phase}]
  exact Multiset.coe_eq_coe.mpr exchanged

/-- From wherever the lines and the permits are in order, all builds can be brought to their ends,
if no call is held back; and permits can go to whoever waits longest. -/
theorem Course.exists_completion {maxConcurrent : Nat} (answering : Answering surroundings)
    (course : Course σ) (orderly : Orderly settings course.pool)
    (balanced : Balanced maxConcurrent course.pool) :
    ∃ moves, firstComeFirstServed settings surroundings course moves = true
      ∧ moves.flatMap Move.builds = []
      ∧ ∀ job ∈ (course.run settings surroundings moves).pool.jobs,
        job.phase.isFinished = true := by
  -- by induction on what is left of the builds
  generalize left : course.pool.phases = phases
  induction phases using Phase.precedes_wf.cutExpand.induction generalizing course with
  | _ phases ih =>
    by_cases ended : ∀ job ∈ course.pool.jobs, job.phase.isFinished = true
    · exact ⟨[], rfl, rfl, ended⟩
    · obtain ⟨i, job, ready, longest⟩ := Pool.exists_ready orderly balanced (by simpa using ended)
      obtain ⟨job', phase, move, found, next, kind, jobs⟩ :=
        (ready.proceeds fun r _ _ other => answering i r course.state other :
          course.Proceeds settings surroundings i)
      obtain rfl : job = job' := Option.some.inj (ready.found.symm.trans found)
      obtain ⟨answers, -, step⟩ := after_next settings surroundings course move
      have less := Pool.phases_cutExpand found next jobs
      obtain ⟨moves, fair, none_new, completed⟩ :=
        ih _ (left ▸ less) _ (orderly.next step) (balanced.next step) rfl
      refine ⟨move :: moves, ?_, ?_, completed⟩
      · rcases kind with rfl | ⟨waiting, rfl⟩
        · simpa [firstComeFirstServed] using fair
        · simpa [firstComeFirstServed, longest waiting] using fair
      · rcases kind with rfl | ⟨waiting, rfl⟩ <;> simpa [Move.builds] using none_new

/-- A pool in which builds never wait in a circle: whoever has the lock of a workspace, or waits for
it, has a permit; while a build is left, some build waits neither for a permit nor for its
workspace, and if it has no permit yet it is the next to get one; a build that waits for neither
goes on with its next move, unless it is in a call that is held back; and if no call is held back,
all builds can be brought to their ends. -/
structure DeadlockFree (settings : Build.Settings) (surroundings : Surroundings σ)
    (course : Course σ) : Prop where
  permitted : ∀ {i : Nat} {place : Place}, i ∈ course.pool.locks.line place →
    ∃ job, course.pool.jobs[i]? = some job ∧ job.phase.isRunning = true
  ready : (∃ job ∈ course.pool.jobs, job.phase.isFinished = false) →
    ∃ i job, course.pool.Ready i job
      ∧ (job.phase.isWaiting = true → course.pool.nextWaiting? = some i)
  proceeds : ∀ {i : Nat} {job : Job}, course.pool.Ready i job →
    job.IsAnswered surroundings course.state i → course.Proceeds settings surroundings i
  completes : Answering surroundings → ∃ moves,
    firstComeFirstServed settings surroundings course moves = true
    ∧ moves.flatMap Move.builds = []
    ∧ ∀ job ∈ (course.run settings surroundings moves).pool.jobs, job.phase.isFinished = true

/-- In whatever order the builds of a pool go on, and whatever they are answered, they never wait in
a circle. -/
theorem Course.run_deadlockFree (settings : Build.Settings) (surroundings : Surroundings σ)
    (maxConcurrent : Nat) (state : σ) (moves : List (Move σ)) :
    DeadlockFree settings surroundings
      ((create maxConcurrent state).run settings surroundings moves) := by
  have orderly : Orderly settings
      ((create maxConcurrent state).run settings surroundings moves).pool :=
    run_orderly surroundings maxConcurrent state moves
  have balanced : Balanced maxConcurrent
      ((create maxConcurrent state).run settings surroundings moves).pool :=
    run_balanced maxConcurrent state moves
  constructor
  · exact orderly.running_of_mem_line
  · exact Pool.exists_ready orderly balanced
  · exact Pool.Ready.proceeds
  · exact fun answering => exists_completion answering _ orderly balanced

end BuildHook.Dispatch
