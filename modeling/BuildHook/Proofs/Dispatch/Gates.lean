import BuildHook.Proofs.Dispatch.Traces
import BuildHook.Proofs.Procedure.Interference

/-!
# Gates

Surroundings that answer every request in one way, but may hold it back. When a build makes a
request, either nothing happens, or the lock lets it go on, or it is attended to in that way: it may
take several turns until it is answered.

## Main results

`step_stride` says that a request comes to nothing else, `Course.after_advance` what a move comes
to, and `Course.dispatched_alone_ends` that a build which is dispatched alone comes to its end if
nothing is held back.
-/

namespace BuildHook.Dispatch

open BuildHook.Path (components)
open Procedure

variable {σ τ : Type}

/-- Surroundings that answer every request in the same way however long they hold it back. The gates
at which requests are held back have a state of their own. -/
def gated (answer : Nat → (r : Build.Request) → σ → Build.Reply r × σ)
    (opens : Nat → Build.Request → σ × τ → Bool × τ) : Surroundings (σ × τ) :=
  fun build r (state, gates) =>
    match opens build r (state, gates) with
    | (true, gates) =>
      let (reply, state) := answer build r state
      (some reply, (state, gates))
    | (false, gates) => (none, (state, gates))

/-- Surroundings that attend to every request in the same way however long they hold it back. It may
take several turns until it is answered. -/
def held (attend : Nat → (r : Build.Request) → σ → Option (Build.Reply r) × σ)
    (opens : Nat → Build.Request → σ × τ → Bool × τ) : Surroundings (σ × τ) :=
  fun build r (state, gates) =>
    match opens build r (state, gates) with
    | (true, gates) =>
      let (reply?, state) := attend build r state
      (reply?, (state, gates))
    | (false, gates) => (none, (state, gates))

/-- What is answered whenever it is not held back is answered in one turn. -/
theorem gated_eq_held (answer : Nat → (r : Build.Request) → σ → Build.Reply r × σ)
    (opens : Nat → Build.Request → σ × τ → Bool × τ) :
    gated answer opens = held (fun build => atOnce (answer build)) opens := by
  funext build r state
  rfl

/-- What a request of a build can come to behind gates: it waits, or the lock lets it go on, or it
is attended to, and perhaps answered. -/
inductive Stride (attend : (r : Build.Request) → σ → Option (Build.Reply r) × σ) :
    Build.Steps BuildState → σ → List Build.Exchange → Build.Steps BuildState → σ → Prop
  | waits (rest state) : Stride attend rest state [] rest state
  | entered {workspace next} (state) :
      Stride attend (.ask (.enter workspace) next) state [] (next ()) state
  | left {workspace next} (state) :
      Stride attend (.ask (.leave workspace) next) state [] (next ()) state
  | asked {r next} (state) (other : r.kind ≠ .lock) :
      Stride attend (.ask r next) state ((attend r state).1.elim [] fun reply => [⟨r, reply⟩])
        ((attend r state).1.elim (.ask r next) next) (attend r state).2

/-- One request of a build behind gates, with the surroundings writing down their answers. -/
theorem step_stride (attend : Nat → (r : Build.Request) → σ → Option (Build.Reply r) × σ)
    (opens : Nat → Build.Request → σ × τ → Bool × τ) (build : Nat)
    (rest : Build.Steps BuildState) (locks : Locks) (state : σ × τ)
    (log : List (Nat × Build.Exchange)) :
    ∃ exchanges rest' locks' state',
      rest.step (Pool.answer? (recording (held attend opens) build) build) (locks, state, log)
        = (rest', locks', state', log ++ entries build exchanges)
      ∧ Stride (attend build) rest state.1 exchanges rest' state'.1 := by
  have stays : log = log ++ entries build [] := (List.append_nil log).symm
  cases rest with
  | done result => exact ⟨[], _, _, state, by rw [← stays]; rfl, .waits _ _⟩
  | ask r next =>
    by_cases hr : r.kind = .lock
    · cases r with
      | enter workspace =>
        by_cases first : (locks.join (components workspace) build).has (components workspace) build
        · exact ⟨[], next (), locks.join (components workspace) build, state,
            by simp [step, Pool.answer?, first, entries], .entered _⟩
        · exact ⟨[], _, locks.join (components workspace) build, state,
            by simp [step, Pool.answer?, first, entries], .waits _ _⟩
      | leave workspace =>
        exact ⟨[], next (), locks.leave (components workspace) build, state,
          by simp [step, Pool.answer?, entries], .left _⟩
      | _ => cases hr
    · rw [step_ask, Pool.answer?_of_not_lock _ _ hr, recording, held]
      cases opens build r (state.1, state.2) with
      | mk open? gates =>
        cases open? with
        | false => exact ⟨[], _, locks, (state.1, gates), by rw [← stays]; rfl, .waits _ _⟩
        | true =>
          refine ⟨_, _, locks, ((attend build r state.1).2, gates), ?_, .asked state.1 hr⟩
          cases attend build r state.1 with
          | mk reply? after =>
            cases reply? with
            | none =>
              show _ = (Procedure.ask r next, locks, (after, gates), log ++ entries build [])
              rw [← stays]
              rfl
            | some reply => rfl

/-- What a move comes to behind gates: a build is dispatched, or gets a permit, or goes on, or
nothing of this happens. -/
inductive Advance (settings : Build.Settings)
    (attend : Nat → (r : Build.Request) → σ → Option (Build.Reply r) × σ) (course after : Course (σ × τ)) :
    Move (σ × τ) → Prop
  | dispatched {push project}
      (jobs : after.pool.jobs
        = course.pool.jobs ++ [⟨push, project, .waiting (Build.run settings push project)⟩])
      (log : after.log = course.log) (state : after.state.1 = course.state.1) :
      Advance settings attend course after (.dispatch push project)
  | started {build push project steps}
      (waits : course.pool.jobs[build]? = some ⟨push, project, .waiting steps⟩)
      (free : 0 < course.pool.free)
      (jobs : after.pool.jobs
        = course.pool.jobs.modify build fun job => { job with phase := .running steps })
      (log : after.log = course.log) (state : after.state.1 = course.state.1) :
      Advance settings attend course after (.start build)
  | went {build push project rest exchanges rest'}
      (runs : course.pool.jobs[build]? = some ⟨push, project, .running rest⟩)
      (stride : Stride (attend build) rest course.state.1 exchanges rest' after.state.1)
      (jobs : after.pool.jobs
        = course.pool.jobs.modify build fun job => { job with phase := .ofSteps rest' })
      (log : after.log = course.log ++ entries build exchanges) :
      Advance settings attend course after (.step build)
  | idle {move} (jobs : after.pool.jobs = course.pool.jobs) (log : after.log = course.log)
      (state : after.state.1 = course.state.1) : Advance settings attend course after move

/-- Every move comes to one of these, if only builds change the state. -/
theorem Course.after_advance (settings : Build.Settings)
    (attend : Nat → (r : Build.Request) → σ → Option (Build.Reply r) × σ)
    (opens : Nat → Build.Request → σ × τ → Bool × τ) (course : Course (σ × τ)) (move : Move (σ × τ))
    (untouched : ∀ f, move = .change f → ∀ state, (f state).1 = state.1) :
    Advance settings attend course (course.after settings (held attend opens) move) move := by
  cases move with
  | dispatch push project => exact .dispatched rfl rfl rfl
  | start build =>
    simp only [after, moved, Pool.startBuild?]
    split
    · next push project steps waits =>
      split
      · next free => exact .started waits free rfl rfl rfl
      · exact .idle rfl rfl rfl
    · exact .idle rfl rfl rfl
  | step build =>
    simp only [after, moved, Pool.stepBuild]
    split
    · next push project rest runs =>
      obtain ⟨exchanges, rest', locks', state', step, stride⟩ :=
        step_stride attend opens build rest course.pool.locks course.state course.log
      rw [step]
      exact .went runs stride (Pool.jobs_proceed _ _ _ _) rfl
    · exact .idle rfl rfl rfl
  | change f => exact .idle rfl rfl (untouched f rfl course.state)
  | _ => exact .idle rfl rfl rfl

/-- A build that goes on behind gates is a part of a run of it alone. -/
theorem Stride.alone {answer : (r : Build.Request) → σ → Build.Reply r × σ}
    {rest rest' : Build.Steps BuildState} {state state' : σ} {exchanges : List Build.Exchange}
    (stride : Stride (atOnce answer) rest state exchanges rest' state') :
    ∃ h, withoutLocks h = exchanges
      ∧ Reaches (unlocked answer) rest state h rest' state' := by
  cases stride with
  | waits => exact ⟨[], rfl, .refl _ _⟩
  | @entered workspace next => exact ⟨[⟨.enter workspace, ()⟩], rfl, .ask _ _ _ _⟩
  | @left workspace next => exact ⟨[⟨.leave workspace, ()⟩], rfl, .ask _ _ _ _⟩
  | @asked r next _ other =>
    have reaches := Reaches.ask (unlocked answer) r next state
    rw [unlocked_of_not_lock _ other] at reaches
    exact ⟨[⟨r, (answer r state).1⟩], by simp [withoutLocks, other, atOnce], reaches⟩

/-- Gates at which nothing is held back. -/
def wide : Nat → Build.Request → σ × Unit → Bool × Unit := fun _ _ _ => (true, ())

/-- Whether nobody but the first build stands before any lock. -/
def Locks.IsQuiet (locks : Locks) : Prop := ∀ place, locks.line place = [] ∨ locks.line place = [0]

theorem Locks.IsQuiet.join {locks : Locks} (quiet : locks.IsQuiet) (place : Place) :
    (locks.join place 0).IsQuiet ∧ (locks.join place 0).has place 0 = true := by
  have here : (locks.join place 0).line place = [0] := by
    rw [Locks.line_join_self]
    rcases quiet place with line | line <;> rw [line] <;> rfl
  constructor
  · intro other
    by_cases same : other = place
    · exact .inr (same ▸ here)
    · rw [Locks.line_join_other _ same]
      exact quiet other
  · rw [Locks.has_iff, here]
    rfl

theorem Locks.IsQuiet.leave {locks : Locks} (quiet : locks.IsQuiet) (place : Place) :
    (locks.leave place 0).IsQuiet := by
  intro other
  by_cases same : other = place
  · subst same
    rw [Locks.line_leave_self]
    rcases quiet other with line | line <;> rw [line] <;> exact .inl rfl
  · rw [Locks.line_leave_other _ same]
    exact quiet other

/-- After so many turns a request is answered. -/
inductive Heeds (attend : (r : Build.Request) → σ → Option (Build.Reply r) × σ)
    (r : Build.Request) : σ → Prop
  | now {state} (replied : (attend r state).1.isSome = true) : Heeds attend r state
  | later {state} (silent : (attend r state).1 = none) (rest : Heeds attend r (attend r state).2) :
      Heeds attend r state

/-- A build that is alone is let go on by the lock at once. -/
theorem step_lock_alone (attend : Nat → (r : Build.Request) → σ → Option (Build.Reply r) × σ)
    {r : Build.Request} (lock : r.kind = .lock) (next : Build.Reply r → Build.Steps BuildState)
    {locks : Locks} (quiet : locks.IsQuiet) (state : σ × Unit)
    (log : List (Nat × Build.Exchange)) :
    ∃ reply locks', locks'.IsQuiet
      ∧ (Procedure.ask r next).step (Pool.answer? (recording (held attend wide) 0) 0)
          (locks, state, log)
        = (next reply, locks', state, log) := by
  cases r with
  | enter workspace =>
    obtain ⟨quiet', first⟩ := quiet.join (components workspace)
    exact ⟨(), _, quiet', by simp [step, Pool.answer?, first]⟩
  | leave workspace =>
    exact ⟨(), locks.leave (components workspace) 0, quiet.leave _, by simp [step, Pool.answer?]⟩
  | _ => cases lock

namespace Course

variable {settings : Build.Settings}
  {attend : Nat → (r : Build.Request) → σ → Option (Build.Reply r) × σ} {push : Push}
  {project : ProjectRecord}

/-- A step of a build that is alone in a pool. -/
theorem after_step_alone (settings : Build.Settings) {rest rest' : Build.Steps BuildState}
    {course : Course (σ × Unit)}
    (jobs : course.pool.jobs = [⟨push, project, .running rest⟩]) {locks' : Locks}
    {last : (σ × Unit) × List (Nat × Build.Exchange)}
    (step : rest.step (Pool.answer? (recording (held attend wide) 0) 0)
      (course.pool.locks, course.state, course.log) = (rest', locks', last)) :
    (course.after settings (held attend wide) (.step 0)).pool.jobs
        = [⟨push, project, .ofSteps rest'⟩]
      ∧ (course.after settings (held attend wide) (.step 0)).pool.locks = locks'
      ∧ (course.after settings (held attend wide) (.step 0)).state = last.1 := by
  have runs : course.pool.jobs[0]? = some ⟨push, project, .running rest⟩ := by rw [jobs]; rfl
  have pool : (course.after settings (held attend wide) (.step 0)).pool
      = course.pool.proceed 0 locks' rest' := by
    simp only [after, moved, Pool.stepBuild, runs, step]
  have state : (course.after settings (held attend wide) (.step 0)).state = last.1 := by
    simp only [after, moved, Pool.stepBuild, runs, step]
  rw [pool, Pool.jobs_proceed, jobs, Pool.locks_proceed]
  exact ⟨rfl, rfl, state⟩

/-- A build that is alone in a pool comes to its end after so many steps. -/
def Ends (settings : Build.Settings)
    (attend : Nat → (r : Build.Request) → σ → Option (Build.Reply r) × σ) (push : Push)
    (project : ProjectRecord) (course : Course (σ × Unit)) : Prop :=
  ∃ turns result, (course.run settings (held attend wide)
    (List.replicate turns (.step 0))).pool.jobs = [⟨push, project, .finished result⟩]

variable {course : Course (σ × Unit)}

theorem Ends.of_after (ends : Ends settings attend push project
      (course.after settings (held attend wide) (.step 0))) :
    Ends settings attend push project course := by
  obtain ⟨turns, result, ended⟩ := ends
  exact ⟨turns + 1, result, ended⟩

/-- A build has ended, or it is running. -/
theorem Ends.of_steps {rest : Build.Steps BuildState}
    (jobs : course.pool.jobs = [⟨push, project, .ofSteps rest⟩])
    (ends : course.pool.jobs = [⟨push, project, .running rest⟩] →
      Ends settings attend push project course) :
    Ends settings attend push project course := by
  cases rest with
  | done result => exact ⟨0, result, jobs⟩
  | ask r next => exact ends jobs

/-- A build that is alone in a pool and has something left to do ends after so many steps. -/
theorem ends_alone (heeds : ∀ r state, Heeds (attend 0) r state) (rest : Build.Steps BuildState)
    (jobs : course.pool.jobs = [⟨push, project, .running rest⟩])
    (quiet : course.pool.locks.IsQuiet) : Ends settings attend push project course := by
  induction rest generalizing course with
  | done result => exact .of_after ⟨0, result, (after_step_alone settings jobs rfl).1⟩
  | ask r next ih =>
    by_cases hr : r.kind = .lock
    · obtain ⟨reply, locks', quiet', step⟩ :=
        step_lock_alone attend hr next quiet course.state course.log
      obtain ⟨jobs', locks, -⟩ := after_step_alone settings jobs step
      exact .of_after (.of_steps jobs' fun running => ih reply running (locks ▸ quiet'))
    · -- the request takes so many turns as it takes from the state that has been reached
      have heeded := heeds r course.state.1
      generalize reached : course.state.1 = state at heeded
      induction heeded generalizing course with
      | @now state replied =>
        obtain ⟨reply, hreply⟩ := Option.isSome_iff_exists.mp replied
        have step : (Procedure.ask r next).step
            (Pool.answer? (recording (held attend wide) 0) 0)
            (course.pool.locks, course.state, course.log)
            = (next reply, course.pool.locks, ((attend 0 r state).2, ()),
              course.log ++ [(0, ⟨r, reply⟩)]) := by
          subst reached
          rw [step_ask, Pool.answer?_of_not_lock _ _ hr, recording, held, wide]
          simp [hreply]
        obtain ⟨jobs', locks, -⟩ := after_step_alone settings jobs step
        exact .of_after (.of_steps jobs' fun running => ih reply running (locks ▸ quiet))
      | @later state silent _ more =>
        have step : (Procedure.ask r next).step
            (Pool.answer? (recording (held attend wide) 0) 0)
            (course.pool.locks, course.state, course.log)
            = (.ask r next, course.pool.locks, ((attend 0 r state).2, ()), course.log) := by
          subst reached
          rw [step_ask, Pool.answer?_of_not_lock _ _ hr, recording, held, wide]
          simp [silent]
        obtain ⟨jobs', locks, after⟩ := after_step_alone settings jobs step
        exact .of_after (more jobs' (locks ▸ quiet) (congrArg Prod.fst after))

/-- A build that is dispatched alone comes to its end if nothing is held back, and every request is
answered after so many turns. -/
theorem dispatched_alone_ends (settings : Build.Settings)
    (heeds : ∀ r state, Heeds (attend 0) r state) (maxConcurrent : Nat) (state : σ)
    (push : Push) (project : ProjectRecord) :
    ∃ turns result, ((create maxConcurrent (state, ())).run settings (held attend wide)
      (.dispatch push project :: .start 0 :: List.replicate turns (.step 0))).pool.jobs
        = [⟨push, project, .finished result⟩] := by
  have free : 0 < max 1 maxConcurrent := by omega
  have begun : ((create maxConcurrent (state, ())).run settings (held attend wide)
        [.dispatch push project, .start 0]).pool
      = ⟨max 1 maxConcurrent - 1, 1, false,
        [⟨push, project, .running (Build.run settings push project)⟩], .empty⟩ := by
    simp [run, after, moved, create, Pool.create, Pool.dispatch, Pool.startBuild?, Pool.setPhase,
      free]
  have jobs := congrArg Pool.jobs begun
  have quiet : ((create maxConcurrent (state, ())).run settings (held attend wide)
      [.dispatch push project, .start 0]).pool.locks.IsQuiet := by
    rw [begun]
    exact fun place => .inl rfl
  exact ends_alone heeds (Build.run settings push project) jobs quiet

end Course

end BuildHook.Dispatch
