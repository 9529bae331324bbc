import BuildHook.Proofs.Build.Reports
import BuildHook.Proofs.Build.Sample
import BuildHook.Proofs.Dispatch.Ledger
import BuildHook.Proofs.Dispatch.Traces
import Mathlib.Data.List.Induction

/-!
# The account of a pool

How many builds may be open at a time, how many are counted as active, what has become of each, and
what was settled before a shutdown returned.

## Main results

`Course.run_accounted` is the account of every course; `Course.run_justified` is what it says of
shutdowns. `Course.not_always_idle` shows that a pool need not be idle when a shutdown returns.
-/

namespace BuildHook.Dispatch

open Build (firstReport lastReport reportsOf)
open Procedure

/-- The report that a build waits for an answer to. -/
def Job.reporting (job : Job) : List StatusUpdate :=
  match job.phase with
  | .running (.ask r _) => r.report?.toList
  | _ => []

variable {σ : Type}

namespace Course

/-- The reports of a build that have been answered, in order. -/
def reports (course : Course σ) (build : Nat) : List StatusUpdate := reportsOf (course.calls build)

/-- Whether a build has been reported as pending, or is being so, and has not been reported in its
final state. -/
def isOpen (course : Course σ) (build : Nat) : Bool :=
  (course.reports build ++ (course.pool.jobs[build]?.map Job.reporting).getD []).any
      (fun report => report.state == .pending)
    && (course.reports build).all fun report => report.state == .pending

end Course

/-- Whether a history stands for the calls of a build up to its phase: no call before its start,
those of a single run that is under way, or those of a single run to the end. -/
def Job.RunOnce (settings : Build.Settings) (job : Job) (calls : List Build.Exchange) : Prop :=
  match job.phase with
  | .waiting steps => steps = Build.run settings job.push job.project ∧ calls = []
  | .running rest =>
    ∃ h, Leads (Build.run settings job.push job.project) h rest ∧ withoutLocks h = calls
  | .finished state =>
    ∃ h, Leads (Build.run settings job.push job.project) h (.done state) ∧ withoutLocks h = calls

/-- Whether a build has come to its end and, unless its key could not be staged, has been reported
twice, the second time with its result. -/
def Job.Concluded (settings : Build.Settings) (job : Job) (calls : List Build.Exchange) : Prop :=
  ∃ state, job.phase = .finished state
    ∧ ((∀ content cause, ⟨.stageKey content, .error cause⟩ ∉ calls) →
      ∃ result, reportsOf calls
          = [firstReport settings job.push, lastReport settings job.push result]
        ∧ state = (lastReport settings job.push result).state)

/-- Whether the first builds have each been run once and are concluded. -/
def Course.Settled (settings : Build.Settings) (course : Course σ) (builds : Nat) : Prop :=
  ∀ i < builds, ∃ job, course.pool.jobs[i]? = some job
    ∧ job.RunOnce settings (course.calls i) ∧ job.Concluded settings (course.calls i)

/-- The account of a pool: the open builds are no more than may run; every permit is free or held;
every build is active or has ended; the builds are those dispatched; each of them is run once; and
no shutdown still waits once the pool is closed and no build is active. -/
structure Accounted (settings : Build.Settings) (maxConcurrent : Nat)
    (dispatched : List (Push × ProjectRecord)) (course : Course σ) : Prop where
  few_open : (List.range dispatched.length).countP course.isOpen ≤ max 1 maxConcurrent
  permits : course.pool.free + course.pool.held = max 1 maxConcurrent
  active : course.pool.active + course.pool.ended = dispatched.length
  builds : course.pool.jobs.map (fun job => (job.push, job.project)) = dispatched
  runs : ∀ {i : Nat} {job : Job}, course.pool.jobs[i]? = some job →
    job.RunOnce settings (course.calls i)
  attentive : course.pool.closed = true → course.pool.active = 0 →
    ∀ called, .waiting called ∉ course.shutdowns

/-- What was the case for a shutdown that has returned after some moves. There was a moment between
its call and its return at which the pool was closed and no build was active, and all builds
dispatched by then, so all that were dispatched before the call, had been run once and were
concluded; they still are. If more builds were dispatched after that moment, only these can have
been active when it returned. -/
structure Farewell.Accounted (settings : Build.Settings) (surroundings : Surroundings σ)
    (start : Course σ) (moves : List (Move σ)) (shutdown : Nat) (farewell : Farewell) : Prop where
  moment : ∃ before later, moves = before ++ later
    ∧ let course := start.run settings surroundings before
      course.shutdowns[shutdown]? = some (.relieved farewell.called farewell.relief)
      ∧ course.pool.closed = true ∧ course.pool.active = 0
      ∧ course.pool.jobs.length = farewell.relief ∧ course.Settled settings farewell.relief
  called : farewell.called ≤ farewell.relief
  settled : (start.run settings surroundings moves).Settled settings farewell.relief
  active : farewell.relief + farewell.active ≤ farewell.dispatched
  dispatched : farewell.dispatched ≤ (start.run settings surroundings moves).pool.jobs.length

variable {settings : Build.Settings}

/-- The lock is not reported on. -/
theorem reportsOf_withoutLocks (h : List Build.Exchange) :
    reportsOf (withoutLocks h) = reportsOf h := by
  induction h with
  | nil => rfl
  | cons x rest ih =>
    by_cases hx : x.question.kind = .lock
    · have unreported : reportsOf [x] = [] :=
        Build.reportsOf_of_not_report (by simp [hx])
      rw [withoutLocks, List.filter_cons_of_neg (by simp [hx]), ← withoutLocks, ih,
        ← List.singleton_append, Build.reportsOf_append, unreported, List.nil_append]
    · rw [withoutLocks, List.filter_cons_of_pos (by simp [hx]), ← withoutLocks,
        ← List.singleton_append, Build.reportsOf_append, ih, ← Build.reportsOf_append,
        List.singleton_append]

/-- A build that has come to its end either has no key and no reports, or has both reports. -/
theorem finished_reports {push : Push} {project : ProjectRecord} {h : List Build.Exchange}
    {state : BuildState} (hl : Leads (Build.run settings push project) h (.done state)) :
    (∃ content cause, ⟨.stageKey content, .error cause⟩ ∈ withoutLocks h
      ∧ reportsOf (withoutLocks h) = [])
    ∨ ∃ result, reportsOf (withoutLocks h)
        = [firstReport settings push, lastReport settings push result]
      ∧ state = (lastReport settings push result).state := by
  rcases Build.leads_run_cases hl with ⟨key, cause, -, rfl, -⟩ | twice
  · exact .inl ⟨_, cause, List.mem_singleton.mpr rfl, rfl⟩
  · rw [reportsOf_withoutLocks]
    exact .inr twice.reports

namespace Traced

variable {course : Course σ}

theorem runOnce (traced : Traced settings course) {i : Nat} {job : Job}
    (found : course.pool.jobs[i]? = some job) : job.RunOnce settings (course.calls i) := by
  obtain ⟨h, hl, hc, unstarted⟩ := traced.run found
  obtain ⟨push, project, phase⟩ := job
  cases phase with
  | waiting steps =>
    obtain rfl := unstarted rfl
    exact ⟨hl.eq_of_nil, hc.symm⟩
  | running rest => exact ⟨h, hl, hc⟩
  | finished state => exact ⟨h, hl, hc⟩

theorem concluded (traced : Traced settings course) {i : Nat} {job : Job}
    (found : course.pool.jobs[i]? = some job) {state : BuildState}
    (finished : job.phase = .finished state) : job.Concluded settings (course.calls i) := by
  obtain ⟨h, hl, hc, -⟩ := traced.run found
  rw [finished] at hl
  refine ⟨state, finished, ?_⟩
  intro staged
  rw [← hc] at staged ⊢
  exact (finished_reports hl).resolve_left fun ⟨content, cause, failed, _⟩ =>
    staged content cause failed

/-- Whatever is open has a permit. -/
theorem running_of_isOpen (traced : Traced settings course) {i : Nat}
    (isOpen : course.isOpen i = true) :
    course.pool.jobs[i]?.any (fun job => job.phase.isRunning) = true := by
  obtain ⟨pending, unfinished⟩ := Bool.and_eq_true_iff.mp isOpen
  cases found : course.pool.jobs[i]? with
  | none =>
    have silent := traced.silent (List.getElem?_eq_none_iff.mp found)
    simp [Course.reports, silent, found, reportsOf] at pending
  | some job =>
    have once := traced.runOnce found
    obtain ⟨push, project, phase⟩ := job
    cases phase with
    | waiting steps =>
      have silent : course.calls i = [] := once.2
      simp [Course.reports, silent, found, reportsOf, Job.reporting] at pending
    | running rest => rfl
    | finished state =>
      obtain ⟨h, hl, hc⟩ := once
      rw [Course.reports, ← hc] at pending unfinished
      rcases finished_reports hl with ⟨-, -, -, none_sent⟩ | ⟨result, both, -⟩
      · simp [none_sent, found, Job.reporting] at pending
      · rw [both] at unfinished
        have last := Build.lastReport_state_ne_pending settings push result
        simp [last] at unfinished

theorem few_open (traced : Traced settings course) :
    (List.range course.pool.jobs.length).countP course.isOpen ≤ course.pool.held := by
  calc
    _ ≤ (List.range course.pool.jobs.length).countP
          (fun i => course.pool.jobs[i]?.any fun job => job.phase.isRunning) :=
      List.countP_mono_left fun i _ isOpen => traced.running_of_isOpen isOpen
    _ = course.pool.held := countP_range _ _

end Traced

/-- Whether the first builds have come to their end. -/
def Pool.FirstEnded (pool : Pool) (builds : Nat) : Prop :=
  ∀ i < builds, ∃ job state, pool.jobs[i]? = some job ∧ job.phase = .finished state

/-- A pool without active builds has only builds that have come to their end. -/
theorem Balanced.firstEnded {maxConcurrent : Nat} {pool : Pool}
    (balanced : Balanced maxConcurrent pool) (idle : pool.active = 0) :
    pool.FirstEnded pool.jobs.length := by
  intro i inside
  have all_ended : pool.ended = pool.jobs.length := by
    have active := balanced.active
    omega
  have finished := List.countP_eq_length.mp all_ended pool.jobs[i] (List.getElem_mem inside)
  cases phase : pool.jobs[i].phase with
  | finished state => exact ⟨_, state, List.getElem?_eq_getElem inside, phase⟩
  | waiting steps => simp [phase, Phase.isFinished] at finished
  | running rest => simp [phase, Phase.isFinished] at finished

/-- Builds that have come to their end are active no longer. -/
theorem Balanced.active_le {maxConcurrent : Nat} {pool : Pool}
    (balanced : Balanced maxConcurrent pool) {builds : Nat} (ended : pool.FirstEnded builds) :
    builds + pool.active ≤ pool.jobs.length := by
  have counted : builds ≤ pool.ended := by
    apply le_countP
    intro i inside
    obtain ⟨job, state, found, finished⟩ := ended i inside
    rw [found, Option.any_some, finished]
    rfl
  have active := balanced.active
  omega

namespace Course

variable {surroundings : Surroundings σ}

/-- Builds that have come to their end have done so for good. -/
theorem firstEnded_run {course : Course σ} {builds : Nat} (ended : course.pool.FirstEnded builds)
    (moves : List (Move σ)) :
    (course.run settings surroundings moves).pool.FirstEnded builds := by
  intro i inside
  obtain ⟨job, state, found, finished⟩ := ended i inside
  obtain ⟨later, there, becomes⟩ := run_becomes course moves found
  obtain rfl := becomes.eq_of_finished finished
  exact ⟨_, state, there, finished⟩

theorem run_balanced (maxConcurrent : Nat) (state : σ) (moves : List (Move σ)) :
    Balanced maxConcurrent
      ((create maxConcurrent state).run settings surroundings moves).pool := by
  apply run_keeps settings surroundings (fun course => Balanced maxConcurrent course.pool)
  · intro course move balanced
    obtain ⟨answers, -, next⟩ := after_next settings surroundings course move
    exact balanced.next next
  · exact balanced_create maxConcurrent

theorem settled_of_firstEnded {course : Course σ} (traced : Traced settings course) {builds : Nat}
    (ended : course.pool.FirstEnded builds) : course.Settled settings builds := by
  intro i inside
  obtain ⟨job, state, found, finished⟩ := ended i inside
  exact ⟨job, found, traced.runOnce found, traced.concluded found finished⟩

/-- Whether the wait of a shutdown was over at some moment of a course, when so many builds had been
dispatched as it says. -/
def Relieved (settings : Build.Settings) (surroundings : Surroundings σ) (start : Course σ)
    (moves : List (Move σ)) (shutdown called relief : Nat) : Prop :=
  called ≤ relief ∧ ∃ before later, moves = before ++ later
    ∧ let course := start.run settings surroundings before
      course.shutdowns[shutdown]? = some (.relieved called relief)
      ∧ course.pool.isDown = true ∧ course.pool.jobs.length = relief

/-- What is true of a shutdown by the stage that it has come to. -/
def Justified (settings : Build.Settings) (surroundings : Surroundings σ) (start : Course σ)
    (moves : List (Move σ)) (shutdown : Nat) : Shutdown → Prop
  | .closing called => called ≤ (start.run settings surroundings moves).pool.jobs.length
  | .waiting called => called ≤ (start.run settings surroundings moves).pool.jobs.length
  | .relieved called relief => Relieved settings surroundings start moves shutdown called relief
  | .returned farewell =>
    Relieved settings surroundings start moves shutdown farewell.called farewell.relief
    ∧ farewell.relief + farewell.active ≤ farewell.dispatched
    ∧ farewell.dispatched ≤ (start.run settings surroundings moves).pool.jobs.length

theorem Relieved.append {start : Course σ} {moves : List (Move σ)} {shutdown called relief : Nat}
    (relieved : Relieved settings surroundings start moves shutdown called relief)
    (more : List (Move σ)) :
    Relieved settings surroundings start (moves ++ more) shutdown called relief := by
  obtain ⟨early, before, later, rfl, there⟩ := relieved
  exact ⟨early, before, later ++ more, List.append_assoc .., there⟩

/-- When the wait of a shutdown was over, all builds dispatched by then had come to their end; so
they have later, too. -/
theorem Relieved.firstEnded {maxConcurrent : Nat} {state : σ} {moves : List (Move σ)}
    {shutdown called relief : Nat} (relieved : Relieved settings surroundings
      (create maxConcurrent state) moves shutdown called relief) :
    ((create maxConcurrent state).run settings surroundings moves).pool.FirstEnded relief := by
  obtain ⟨-, before, later, rfl, -, down, rfl⟩ := relieved
  rw [Pool.isDown, Bool.and_eq_true, beq_iff_eq] at down
  rw [run_append]
  exact firstEnded_run ((run_balanced maxConcurrent state before).firstEnded down.2) later

theorem length_le_after (course : Course σ) (move : Move σ) :
    course.pool.jobs.length ≤ (course.after settings surroundings move).pool.jobs.length := by
  obtain ⟨answers, -, next⟩ := after_next settings surroundings course move
  have grown := congrArg List.length next.builds
  simp only [List.length_map, List.length_append] at grown
  omega

/-- What one move does to a shutdown is justified by what was true of it before. -/
theorem justified_next {maxConcurrent : Nat} {state : σ} {moves : List (Move σ)} {move : Move σ}
    {shutdown : Nat} {stage stage' : Shutdown}
    (justified : Justified settings surroundings (create maxConcurrent state) moves shutdown stage)
    (next : stage.Next ((create maxConcurrent state).run settings surroundings
      (moves ++ [move])).pool stage')
    (found : ((create maxConcurrent state).run settings surroundings
      (moves ++ [move])).shutdowns[shutdown]? = some stage') :
    Justified settings surroundings (create maxConcurrent state) (moves ++ [move]) shutdown
      stage' := by
  have grown : ((create maxConcurrent state).run settings surroundings moves).pool.jobs.length
      ≤ ((create maxConcurrent state).run settings surroundings
        (moves ++ [move])).pool.jobs.length := by
    rw [run_append]
    exact length_le_after _ move
  cases next with
  | same =>
    cases stage with
    | closing called => exact Nat.le_trans justified grown
    | waiting called => exact Nat.le_trans justified grown
    | relieved called relief => exact Relieved.append justified [move]
    | returned farewell =>
      obtain ⟨relieved, active, dispatched⟩ := justified
      exact ⟨relieved.append [move], active, Nat.le_trans dispatched grown⟩
  | waits called => exact Nat.le_trans justified grown
  | @relieved _ called unrelieved down =>
    refine ⟨Nat.le_trans ?_ grown, moves ++ [move], [], (List.append_nil _).symm, found, down, rfl⟩
    rcases unrelieved with rfl | rfl <;> exact justified
  | returned called relief =>
    have relieved := Relieved.append justified [move]
    exact ⟨relieved, (run_balanced maxConcurrent state _).active_le relieved.firstEnded,
      Nat.le_refl _⟩

/-- Every shutdown has come to its stage for a reason. -/
theorem run_justified (maxConcurrent : Nat) (state : σ) (moves : List (Move σ)) {shutdown : Nat}
    {stage : Shutdown} (found : ((create maxConcurrent state).run settings surroundings
      moves).shutdowns[shutdown]? = some stage) :
    Justified settings surroundings (create maxConcurrent state) moves shutdown stage := by
  induction moves using List.reverseRecOn generalizing stage with
  | nil => cases found
  | append_singleton moves move ih =>
    have split := found
    rw [run_append] at split
    rcases after_shutdowns settings surroundings _ move split with rfl | ⟨before, was, next⟩
    · exact Nat.le_of_eq (by rw [run_append]; rfl)
    · exact justified_next (ih was) (by rw [run_append]; exact next) found

/-- A shutdown that waits is let go as soon as the pool is closed and no build is active. -/
theorem after_attentive (course : Course σ) (move : Move σ)
    (down : (course.after settings surroundings move).pool.isDown = true) (called : Nat) :
    .waiting called ∉ (course.after settings surroundings move).shutdowns := by
  intro waits
  obtain ⟨shutdown, -, noticed⟩ := List.mem_map.mp waits
  have open_pool : (course.moved settings surroundings move).pool.isDown = true := down
  cases shutdown with
  | waiting called =>
    simp only [Shutdown.notice, open_pool, if_true] at noticed
    cases noticed
  | _ => cases noticed

theorem run_attentive (maxConcurrent : Nat) (state : σ) (moves : List (Move σ)) (called : Nat)
    (down : ((create maxConcurrent state).run settings surroundings moves).pool.isDown = true) :
    .waiting called ∉ ((create maxConcurrent state).run settings surroundings moves).shutdowns := by
  rcases List.eq_nil_or_concat moves with rfl | ⟨front, last, rfl⟩
  · cases down
  · rw [List.concat_eq_append, run_append] at down ⊢
    exact after_attentive _ last down called

/-- A shutdown that has returned is accounted for. -/
theorem run_returned {maxConcurrent : Nat} {state : σ} {moves : List (Move σ)} {shutdown : Nat}
    {farewell : Farewell} (found : ((create maxConcurrent state).run settings surroundings
      moves).shutdowns[shutdown]? = some (.returned farewell)) :
    farewell.Accounted settings surroundings (create maxConcurrent state) moves shutdown := by
  obtain ⟨relieved, active, dispatched⟩ := run_justified maxConcurrent state moves found
  have settled (moves : List (Move σ)) {relief : Nat} (ended : ((create maxConcurrent state).run
      settings surroundings moves).pool.FirstEnded relief) :=
    settled_of_firstEnded (run_traced maxConcurrent state moves) ended
  obtain ⟨called, before, later, split, there, down, builds⟩ := id relieved
  have idle := down
  rw [Pool.isDown, Bool.and_eq_true, beq_iff_eq] at idle
  refine ⟨⟨before, later, split, there, idle.1, idle.2, builds, settled before ?_⟩, called,
    settled moves relieved.firstEnded, active, dispatched⟩
  rw [← builds]
  exact (run_balanced maxConcurrent state before).firstEnded idle.2

/-- Whatever happens to a pool, it is accounted for, and so is every shutdown that has returned; and
whatever happens afterwards, no build is lost or goes back. -/
theorem run_accounted (settings : Build.Settings) (surroundings : Surroundings σ)
    (maxConcurrent : Nat) (state : σ) (moves more : List (Move σ)) :
    let course := (create maxConcurrent state).run settings surroundings moves
    Accounted settings maxConcurrent (moves.flatMap Move.builds) course
    ∧ (∀ (shutdown : Nat) (farewell : Farewell),
      course.shutdowns[shutdown]? = some (.returned farewell) →
      farewell.Accounted settings surroundings (create maxConcurrent state) moves shutdown)
    ∧ ∀ {i : Nat} {job : Job}, course.pool.jobs[i]? = some job →
      ∃ job', ((create maxConcurrent state).run settings surroundings (moves ++ more)).pool.jobs[i]?
          = some job' ∧ job.Becomes job' := by
  intro course
  have traced : Traced settings course := run_traced maxConcurrent state moves
  have balanced : Balanced maxConcurrent course.pool := run_balanced maxConcurrent state moves
  have builds : course.pool.jobs.map (fun job => (job.push, job.project))
      = moves.flatMap Move.builds := run_builds maxConcurrent state moves
  have length : course.pool.jobs.length = (moves.flatMap Move.builds).length := by
    rw [← builds, List.length_map]
  refine ⟨⟨?_, balanced.permits, ?_, builds, traced.runOnce, ?_⟩, ?_, ?_⟩
  · have few := traced.few_open
    have permits := balanced.permits
    rw [← length]
    omega
  · rw [← length]
    exact balanced.active
  · intro closed idle called
    exact run_attentive maxConcurrent state moves called (by rw [Pool.isDown, closed, idle]; rfl)
  · intro shutdown farewell found
    exact run_returned found
  · intro i job found
    rw [run_append]
    exact run_becomes course more found

/-- Closing a pool does not keep builds from being dispatched: neither while a shutdown whose wait is
over has yet to return, nor after it has returned. So not all builds need to have come to their end
by then. -/
theorem not_always_idle :
    let silent : Surroundings Unit := fun _ _ state => (none, state)
    let late := (create 1 ()).run Build.Sample.settings silent
      [.close, .await 0, .dispatch (Build.Sample.pushTo "a/b") Build.Sample.project, .wake 0]
    let afterwards := (create 1 ()).run Build.Sample.settings silent
      [.close, .await 0, .wake 0, .dispatch (Build.Sample.pushTo "a/b") Build.Sample.project]
    late.shutdowns = [.returned ⟨0, 0, 1, 1⟩] ∧ late.pool.active = 1
    ∧ afterwards.shutdowns = [.returned ⟨0, 0, 0, 0⟩] ∧ afterwards.pool.active = 1
    ∧ ¬ ∀ (settings : Build.Settings) (surroundings : Surroundings Unit) (maxConcurrent : Nat)
      (moves : List (Move Unit)) (shutdown : Nat) (farewell : Farewell),
      let course := (create maxConcurrent ()).run settings surroundings moves
      course.shutdowns[shutdown]? = some (.returned farewell) →
      course.Settled settings farewell.dispatched ∧ farewell.active = 0 := by
  intro silent late afterwards
  have returned : late.shutdowns = [.returned ⟨0, 0, 1, 1⟩] := rfl
  refine ⟨returned, rfl, rfl, rfl, fun all => ?_⟩
  have found : late.shutdowns[0]? = some (.returned ⟨0, 0, 1, 1⟩) := by
    rw [returned]
    rfl
  exact absurd (all Build.Sample.settings silent 1 _ 0 _ found).2 (by decide)

end Course

end BuildHook.Dispatch
