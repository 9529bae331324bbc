import BuildHook.Proofs.Build.Sample
import BuildHook.Proofs.Dispatch.Gates
import BuildHook.Proofs.Dispatch.Ledger
import BuildHook.Proofs.List.Entries

/-!
# Builds one by one

A pool with a single permit, which goes to the build that waits longest, runs its builds one after
the other in the order of their dispatch. However long a request is held back, the builds are
answered as if each of them had been run alone on what the builds before it left behind.

## Main results

`oneByOne` is the fold over the builds, and `Course.run_serial` says that the log of every course is
a part of its log, and the whole of it once all builds have ended.
-/

namespace BuildHook.Dispatch

open Procedure

variable {σ τ : Type}

/-- What has come of builds that were run one after the other: the state they left, what they were
answered, and their results. -/
structure Series (σ : Type) where
  state : σ
  log : List (Nat × Build.Exchange)
  results : List BuildState

/-- Runs one more build, alone and to its end. -/
def Series.next (settings : Build.Settings)
    (answer : Nat → (r : Build.Request) → σ → Build.Reply r × σ) (series : Series σ)
    (build : Push × ProjectRecord) : Series σ :=
  let alone := Build.run settings build.1 build.2
  let answers := unlocked (answer series.results.length)
  let (result, state) := alone.run answers series.state
  let calls := withoutLocks (alone.history answers series.state)
  ⟨state, series.log ++ entries series.results.length calls, series.results ++ [result]⟩

/-- Runs builds one after the other. -/
def oneByOne (settings : Build.Settings)
    (answer : Nat → (r : Build.Request) → σ → Build.Reply r × σ) (start : σ)
    (builds : List (Push × ProjectRecord)) : Series σ :=
  builds.foldl (Series.next settings answer) ⟨start, [], []⟩

/-- Whether permits go to whoever waits longest. -/
def firstComeFirstServed (settings : Build.Settings) (surroundings : Surroundings σ) :
    Course σ → List (Move σ) → Bool
  | _, [] => true
  | course, move :: moves =>
    (match move with
    | .start build => course.pool.nextWaiting? == some build
    | _ => true)
    && firstComeFirstServed settings surroundings (course.after settings surroundings move) moves

/-- What a build is built from. -/
def Job.source (job : Job) : Push × ProjectRecord := (job.push, job.project)

variable (settings : Build.Settings)
  (answer : Nat → (r : Build.Request) → σ → Build.Reply r × σ)

/-- At most one build that is under way behind a series, with the log and the state to which it has
come: as far as it comes when it is run alone. -/
inductive Underway (series : Series σ) : List Job → List (Nat × Build.Exchange) → σ → Prop
  | none : Underway series [] series.log series.state
  | one {push project rest h state}
      (reaches : Reaches (unlocked (answer series.results.length))
        (Build.run settings push project) series.state h rest state) :
      Underway series [⟨push, project, .running rest⟩]
        (series.log ++ entries series.results.length (withoutLocks h)) state

/-- The first jobs have ended as in a series, at most one is under way behind them, and the others
wait. -/
structure InSeries (start : σ) (jobs : List Job) (log : List (Nat × Build.Exchange)) (state : σ)
    (past current later : List Job) : Prop where
  parts : jobs = past ++ (current ++ later)
  ended : past.map Job.phase
    = (oneByOne settings answer start (past.map Job.source)).results.map Phase.finished
  underway : Underway settings answer (oneByOne settings answer start (past.map Job.source)) current
    log state
  waits : ∀ job ∈ later, job.phase = .waiting (Build.run settings job.push job.project)

variable {settings answer}

theorem oneByOne_append (start : σ) (builds : List (Push × ProjectRecord))
    (build : Push × ProjectRecord) :
    oneByOne settings answer start (builds ++ [build])
      = (oneByOne settings answer start builds).next settings answer build := by
  simp only [oneByOne, List.foldl_append, List.foldl_cons, List.foldl_nil]

/-- Later builds only add to the log. -/
theorem log_oneByOne_append (start : σ) (first second : List (Push × ProjectRecord)) :
    (oneByOne settings answer start first).log
      <+: (oneByOne settings answer start (first ++ second)).log := by
  rw [oneByOne, oneByOne, List.foldl_append]
  generalize first.foldl (Series.next settings answer) ⟨start, [], []⟩ = series
  induction second generalizing series with
  | nil => exact List.prefix_refl _
  | cons build second ih =>
    exact (List.prefix_append _ _).trans (ih (series.next settings answer build))

namespace InSeries

variable {start : σ} {maxConcurrent : Nat} {pool : Pool} {log : List (Nat × Build.Exchange)}
  {state : σ} {past current later : List Job}

theorem length_results
    (series : InSeries settings answer start pool.jobs log state past current later) :
    (oneByOne settings answer start (past.map Job.source)).results.length = past.length := by
  have lengths := congrArg List.length series.ended
  simpa using lengths.symm

/-- Only the build under way has a permit. -/
theorem eq_of_running
    (series : InSeries settings answer start pool.jobs log state past current later)
    {build : Nat} {job : Job} {rest : Build.Steps BuildState}
    (found : pool.jobs[build]? = some job) (running : job.phase = .running rest) :
    build = past.length ∧ current = [job] := by
  rw [series.parts] at found
  rcases Nat.lt_or_ge build past.length with before | behind
  · rw [List.getElem?_append_left before] at found
    have ended : Phase.running rest ∈ past.map Job.phase :=
      running ▸ List.mem_map_of_mem (List.mem_of_getElem? found)
    simp [series.ended] at ended
  · rw [List.getElem?_append_right behind] at found
    have waiting (job : Job) (member : job ∈ later) : job.phase ≠ .running rest := by
      rw [series.waits job member]
      exact Phase.noConfusion
    obtain ⟨place, rfl⟩ := Nat.exists_eq_add_of_le behind
    rw [Nat.add_sub_cancel_left] at found
    cases series.underway with
    | none => exact absurd running (waiting job (List.mem_of_getElem? found))
    | one reaches =>
      cases place with
      | zero =>
        obtain rfl := Option.some.inj found
        exact ⟨rfl, rfl⟩
      | succ place => exact absurd running (waiting job (List.mem_of_getElem? found))

/-- With a free permit no build is under way, and whoever waits longest is the first behind the
series. -/
theorem first_waits
    (series : InSeries settings answer start pool.jobs log state past current later)
    (balanced : Balanced maxConcurrent pool) (single : maxConcurrent ≤ 1) {build : Nat}
    {push : Push} {project : ProjectRecord} {steps : Build.Steps BuildState}
    (waits : pool.jobs[build]? = some ⟨push, project, .waiting steps⟩) (free : 0 < pool.free)
    (longest : pool.nextWaiting? = some build) :
    build = past.length ∧ current = [] ∧ ∃ later',
      later = ⟨push, project, .waiting steps⟩ :: later' := by
  have idle : current = [] := by
    have permits := balanced.permits
    have held : pool.held = pool.jobs.countP fun job => job.phase.isRunning := rfl
    rw [series.parts, List.countP_append, List.countP_append] at held
    cases series.underway with
    | none => rfl
    | one reaches =>
      simp [Phase.isRunning] at held
      omega
  subst idle
  have past_ended : ∀ job ∈ past, job.phase.isWaiting = false := by
    intro job member
    have ended : job.phase ∈ past.map Job.phase := List.mem_map_of_mem member
    rw [series.ended] at ended
    obtain ⟨result, -, finished⟩ := List.mem_map.mp ended
    rw [← finished]
    rfl
  have nobody : past.findIdx? (fun job => job.phase.isWaiting) = none :=
    List.findIdx?_eq_none_iff.mpr past_ended
  rw [Pool.nextWaiting?, series.parts, List.nil_append, List.findIdx?_append, nobody] at longest
  cases later with
  | nil => simp at longest
  | cons job later' =>
    have first : job.phase.isWaiting = true := by
      rw [series.waits job List.mem_cons_self]
      rfl
    obtain rfl : past.length = build := by simpa [List.findIdx?_cons, first] using longest
    refine ⟨rfl, rfl, later', ?_⟩
    rw [series.parts] at waits
    simpa using waits

theorem dispatch
    (series : InSeries settings answer start pool.jobs log state past current later)
    (push : Push) (project : ProjectRecord) :
    InSeries settings answer start
      (pool.jobs ++ [⟨push, project, .waiting (Build.run settings push project)⟩]) log state past
      current (later ++ [⟨push, project, .waiting (Build.run settings push project)⟩]) where
  parts := by simp [series.parts]
  ended := series.ended
  underway := series.underway
  waits job member := by
    rcases List.mem_append.mp member with old | new
    · exact series.waits job old
    · rw [List.mem_singleton.mp new]

/-- The next build begins where the series has ended. -/
theorem begins {push : Push} {project : ProjectRecord} {steps : Build.Steps BuildState}
    (series : InSeries settings answer start pool.jobs log state past []
      (⟨push, project, .waiting steps⟩ :: later)) :
    InSeries settings answer start
      (pool.jobs.modify past.length fun job => { job with phase := .running steps }) log state past
      [⟨push, project, .running steps⟩] later where
  parts := by
    rw [series.parts, List.nil_append, modify_append_length]
    rfl
  ended := series.ended
  underway := by
    obtain rfl : steps = Build.run settings push project :=
      Phase.waiting.inj (series.waits _ List.mem_cons_self)
    cases series.underway
    have begun : Underway settings answer (oneByOne settings answer start (past.map Job.source))
        [⟨push, project, .running (Build.run settings push project)⟩]
        ((oneByOne settings answer start (past.map Job.source)).log
          ++ entries (oneByOne settings answer start (past.map Job.source)).results.length
            (withoutLocks []))
        (oneByOne settings answer start (past.map Job.source)).state := .one (.refl _ _)
    simpa [withoutLocks, entries] using begun
  waits job member := series.waits job (List.mem_cons_of_mem _ member)

/-- The build under way goes on alone, or ends and makes the series longer. -/
theorem goes_on {push : Push} {project : ProjectRecord} {rest rest' : Build.Steps BuildState}
    {exchanges : List Build.Exchange} {state' : σ}
    (series : InSeries settings answer start pool.jobs log state past
      [⟨push, project, .running rest⟩] later)
    (stride : Stride (atOnce (answer past.length)) rest state exchanges rest' state') :
    ∃ past' current', InSeries settings answer start
      (pool.jobs.modify past.length fun job => { job with phase := .ofSteps rest' })
      (log ++ entries past.length exchanges) state' past' current' later := by
  obtain ⟨h, rfl, more⟩ := stride.alone
  have parts : (pool.jobs.modify past.length fun job => { job with phase := .ofSteps rest' })
      = past ++ (⟨push, project, .ofSteps rest'⟩ :: later) := by
    rw [series.parts, List.singleton_append, modify_append_length]
  have length := series.length_results
  have ended := series.ended
  have underway := series.underway
  generalize known : oneByOne settings answer start (past.map Job.source) = before
    at length ended underway
  rw [← length] at more ⊢
  cases underway with
  | @one _ _ _ h' _ reaches =>
    have further := reaches.append more
    have longer : before.log ++ entries before.results.length (withoutLocks h')
          ++ entries before.results.length (withoutLocks h)
        = before.log ++ entries before.results.length (withoutLocks (h' ++ h)) := by
      rw [withoutLocks_append, List.append_assoc]
      simp [entries]
    rw [longer, length]
    cases rest' with
    | ask r next =>
      refine ⟨past, [⟨push, project, .running (.ask r next)⟩], parts, known ▸ ended, ?_,
        series.waits⟩
      rw [known, ← length]
      exact .one further
    | done result =>
      have next : oneByOne settings answer start
            ((past ++ [Job.mk push project (.finished result)]).map Job.source)
          = ⟨state', before.log ++ entries before.results.length (withoutLocks (h' ++ h)),
            before.results ++ [result]⟩ := by
        rw [List.map_append, List.map_singleton, oneByOne_append, known]
        simp only [Series.next, Job.source, further.history, further.run, history,
          Procedure.run, List.append_nil]
      refine ⟨past ++ [⟨push, project, .finished result⟩], [], ?_, ?_, ?_, series.waits⟩
      · rw [parts]
        simp [Phase.ofSteps]
      · rw [next, List.map_append, ended]
        simp
      · rw [next, ← length]
        exact .none

/-- What was answered so far begins the log of the whole series. -/
theorem log_prefix
    (series : InSeries settings answer start pool.jobs log state past current later) :
    log <+: (oneByOne settings answer start (pool.jobs.map Job.source)).log := by
  rw [series.parts]
  cases series.underway with
  | none =>
    rw [List.map_append]
    exact log_oneByOne_append start _ _
  | @one push project rest h _ reaches =>
    have begun : withoutLocks h <+: withoutLocks ((Build.run settings push project).history
        (unlocked (answer (oneByOne settings answer start (past.map Job.source)).results.length))
        (oneByOne settings answer start (past.map Job.source)).state) := by
      rw [reaches.history, withoutLocks_append]
      exact List.prefix_append _ _
    have longer : (oneByOne settings answer start (past.map Job.source)).log
          ++ entries (oneByOne settings answer start (past.map Job.source)).results.length
            (withoutLocks h)
        <+: (oneByOne settings answer start (past.map Job.source ++ [(push, project)])).log := by
      rw [oneByOne_append]
      exact (List.prefix_append_right_inj _).mpr (begun.map _)
    refine longer.trans ?_
    rw [List.map_append, List.map_append, ← List.append_assoc]
    exact log_oneByOne_append start _ _

/-- When all builds have ended, the series is whole. -/
theorem whole
    (series : InSeries settings answer start pool.jobs log state past current later)
    (finished : ∀ job ∈ pool.jobs, job.phase.isFinished = true) :
    log = (oneByOne settings answer start (pool.jobs.map Job.source)).log
    ∧ state = (oneByOne settings answer start (pool.jobs.map Job.source)).state
    ∧ pool.jobs.map Job.phase
      = (oneByOne settings answer start (pool.jobs.map Job.source)).results.map
        Phase.finished := by
  rw [series.parts] at finished ⊢
  have nobody_waits : later = [] := by
    apply List.eq_nil_iff_forall_not_mem.mpr
    intro job member
    have ended := finished job (by simp [member])
    rw [series.waits job member] at ended
    cases ended
  subst nobody_waits
  cases series.underway with
  | none => simpa using series.ended
  | @one push project rest h _ reaches =>
    have ended := finished ⟨push, project, .running rest⟩ (by simp)
    cases ended

end InSeries

namespace Course

variable {start : σ} {maxConcurrent : Nat} {opens : Nat → Build.Request → σ × τ → Bool × τ}

/-- Whether the builds of a course are in series. -/
def IsSerial (settings : Build.Settings)
    (answer : Nat → (r : Build.Request) → σ → Build.Reply r × σ) (start : σ)
    (course : Course (σ × τ)) : Prop :=
  ∃ past current later, InSeries settings answer start course.pool.jobs course.log course.state.1
    past current later

/-- Every move keeps the builds in series, if permits go to whoever waits longest and only builds
change the state. -/
theorem IsSerial.after {course : Course (σ × τ)} (serial : course.IsSerial settings answer start)
    (balanced : Balanced maxConcurrent course.pool)
    (single : maxConcurrent ≤ 1) (move : Move (σ × τ))
    (longest : ∀ build, move = .start build → course.pool.nextWaiting? = some build)
    (untouched : ∀ f, move = .change f → ∀ state, (f state).1 = state.1) :
    (course.after settings (gated answer opens) move).IsSerial settings answer start := by
  obtain ⟨past, current, later, series⟩ := serial
  have advance :=
    after_advance settings (fun build => atOnce (answer build)) opens course move untouched
  rw [← gated_eq_held] at advance
  generalize course.after settings (gated answer opens) move = after at advance
  unfold IsSerial
  cases advance with
  | @dispatched push project jobs log state =>
    rw [jobs, log, state]
    exact ⟨past, current, _, series.dispatch push project⟩
  | @started build _ _ _ waits free jobs log state =>
    obtain ⟨rfl, rfl, later', rfl⟩ :=
      series.first_waits balanced single waits free (longest build rfl)
    rw [jobs, log, state]
    exact ⟨past, _, later', series.begins⟩
  | went runs stride jobs log =>
    obtain ⟨rfl, rfl⟩ := series.eq_of_running runs rfl
    rw [jobs, log]
    obtain ⟨past', current', longer⟩ := series.goes_on stride
    exact ⟨past', current', later, longer⟩
  | idle jobs log state =>
    rw [jobs, log, state]
    exact ⟨past, current, later, series⟩

theorem IsSerial.run {course : Course (σ × τ)} (serial : course.IsSerial settings answer start)
    (balanced : Balanced maxConcurrent course.pool)
    (single : maxConcurrent ≤ 1) (moves : List (Move (σ × τ)))
    (fair : firstComeFirstServed settings (gated answer opens) course moves = true)
    (untouched : ∀ f, .change f ∈ moves → ∀ state, (f state).1 = state.1) :
    (course.run settings (gated answer opens) moves).IsSerial settings answer start := by
  induction moves generalizing course with
  | nil => exact serial
  | cons move moves ih =>
    obtain ⟨first, fair⟩ := Bool.and_eq_true_iff.mp fair
    obtain ⟨answers, -, next⟩ := after_next settings (gated answer opens) course move
    refine ih (serial.after balanced single move ?_ ?_) (balanced.next next) fair
      fun f member => untouched f (List.mem_cons_of_mem _ member)
    · rintro build rfl
      exact eq_of_beq first
    · rintro f rfl
      exact untouched f List.mem_cons_self

/-- A pool with one permit, which goes to whoever waits longest, runs its builds one by one: what
they are answered is, however long it is held back, a part of what they are answered when each of
them is run alone on the state that the builds before it left behind; and once all have ended it is
the whole of it, with the same results and the same state. -/
theorem run_serial (settings : Build.Settings)
    (answer : Nat → (r : Build.Request) → σ → Build.Reply r × σ)
    (opens : Nat → Build.Request → σ × τ → Bool × τ) {maxConcurrent : Nat}
    (single : maxConcurrent ≤ 1) (state : σ × τ) (moves : List (Move (σ × τ)))
    (fair : firstComeFirstServed settings (gated answer opens) (create maxConcurrent state) moves
      = true)
    (untouched : ∀ f, .change f ∈ moves → ∀ state, (f state).1 = state.1) :
    let course := (create maxConcurrent state).run settings (gated answer opens) moves
    let series := oneByOne settings answer state.1 (moves.flatMap Move.builds)
    course.log <+: series.log
    ∧ ((∀ job ∈ course.pool.jobs, job.phase.isFinished = true) →
      course.log = series.log ∧ course.state.1 = series.state
      ∧ course.pool.jobs.map Job.phase = series.results.map Phase.finished) := by
  intro course series
  have created : (create maxConcurrent state).IsSerial settings answer state.1 :=
    ⟨[], [], [], rfl, rfl, .none, fun _ member => absurd member List.not_mem_nil⟩
  obtain ⟨past, current, later, placed⟩ :=
    created.run (balanced_create maxConcurrent) single moves fair untouched
  have builds : course.pool.jobs.map Job.source = moves.flatMap Move.builds :=
    run_builds maxConcurrent state moves
  rw [show series = oneByOne settings answer state.1 (course.pool.jobs.map Job.source) by
    rw [builds]]
  exact ⟨placed.log_prefix, placed.whole⟩

end Course

namespace Sample

/-- A gate that lets one clone through for every permit. -/
def opens (_ : Nat) : Build.Request → Nat × Nat → Bool × Nat
  | .clone .., (_, permits) => (0 < permits, permits - 1)
  | _, (_, permits) => (true, permits)

/-- Two builds of one repository. The first is held back at its clone while the second is dispatched
and asks for a permit in vain; then two clones are let through. -/
def moves : List (Move (Nat × Nat)) :=
  .dispatch (Build.Sample.pushTo "a/b") Build.Sample.project :: .start 0
    :: List.replicate 5 (.step 0)
  ++ .dispatch (Build.Sample.pushTo "a/b") Build.Sample.project :: .start 1
    :: .change (fun (state, permits) => (state, permits + 2)) :: List.replicate 6 (.step 0)
  ++ .start 1 :: List.replicate 10 (.step 1)

end Sample

/-- The sample builds, one after the other. -/
theorem Course.run_serial_two_builds :
    let surroundings := gated (fun _ => Build.Sample.answer) Sample.opens
    let course := (create 0 (0, 0)).run Build.Sample.settings surroundings Sample.moves
    let series := oneByOne Build.Sample.settings (fun _ => Build.Sample.answer) 0
      (Sample.moves.flatMap Move.builds)
    firstComeFirstServed Build.Sample.settings surroundings (create 0 (0, 0)) Sample.moves = true
    ∧ (∀ f, .change f ∈ Sample.moves → ∀ state, (f state).1 = state.1)
    ∧ (∀ job ∈ course.pool.jobs, job.phase.isFinished = true)
    ∧ course.log = series.log := by
  have fair : firstComeFirstServed Build.Sample.settings
      (gated (fun _ => Build.Sample.answer) Sample.opens) (create 0 (0, 0)) Sample.moves
        = true := by
    decide +kernel
  have untouched : ∀ f, .change f ∈ Sample.moves → ∀ state, (f state).1 = state.1 := by
    intro f member
    obtain rfl : f = fun (state, permits) => (state, permits + 2) := by
      simpa [Sample.moves] using member
    exact fun _ => rfl
  have finished : ∀ job ∈ ((create 0 (0, 0)).run Build.Sample.settings
      (gated (fun _ => Build.Sample.answer) Sample.opens) Sample.moves).pool.jobs,
      job.phase.isFinished = true := by
    decide +kernel
  exact ⟨fair, untouched, finished, ((run_serial Build.Sample.settings
    (fun _ => Build.Sample.answer) Sample.opens (Nat.zero_le 1) (0, 0) Sample.moves fair
    untouched).2 finished).1⟩

end BuildHook.Dispatch
