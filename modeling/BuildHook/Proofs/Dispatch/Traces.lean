import BuildHook.Proofs.Dispatch.Step

/-!
# The runs of the builds of a pool

Every build of a pool is run once, from its beginning and without a gap, and what it was answered is
the history of that run. No build is lost, and none goes back.

## Main results

`Course.run_traced` says so of the runs, `Course.run_becomes` of any two points of a course.
-/

namespace BuildHook.Dispatch

open Procedure

/-- A history without the requests for the lock, which the pool answers itself. -/
def withoutLocks (h : List Build.Exchange) : List Build.Exchange :=
  h.filter fun x => x.question.kind != .lock

theorem withoutLocks_append (first second : List Build.Exchange) :
    withoutLocks (first ++ second) = withoutLocks first ++ withoutLocks second :=
  List.filter_append ..

/-- What answers a build that is run alone: the lock of its workspace is free. -/
def unlocked {σ : Type} (answer : (r : Build.Request) → σ → Build.Reply r × σ) :
    (r : Build.Request) → σ → Build.Reply r × σ
  | .enter _, state => ((), state)
  | .leave _, state => ((), state)
  | r, state => answer r state

theorem unlocked_of_not_lock {σ : Type}
    (answer : (r : Build.Request) → σ → Build.Reply r × σ)
    {r : Build.Request} (other : r.kind ≠ .lock) : unlocked answer r = answer r := by
  cases r <;> first | rfl | exact absurd rfl other

/-- A build goes on from where it was, and what it is answered is written down. -/
theorem Progress.leads {build : Nat} {rest rest' : Build.Steps BuildState} {locks locks' : Locks}
    {exchanges : List Build.Exchange}
    (progress : Progress build rest locks exchanges rest' locks') :
    ∃ h, Leads rest h rest' ∧ withoutLocks h = exchanges := by
  cases progress with
  | ended state => exact ⟨[], .refl _, rfl⟩
  | @entered workspace next _ first => exact ⟨[⟨.enter workspace, ()⟩], .ask (.refl _), rfl⟩
  | queued behind => exact ⟨[], .refl _, rfl⟩
  | @left workspace next _ => exact ⟨[⟨.leave workspace, ()⟩], .ask (.refl _), rfl⟩
  | @answered r next _ reply other =>
    exact ⟨[⟨r, reply⟩], .ask (.refl _), by simp [withoutLocks, other]⟩
  | unanswered other => exact ⟨[], .refl _, rfl⟩

/-- How far a phase is from the dispatch. -/
def Phase.rank : Phase → Nat
  | .waiting _ => 0
  | .running _ => 1
  | .finished _ => 2

theorem Phase.rank_ofSteps (rest : Build.Steps BuildState) : 1 ≤ (ofSteps rest).rank := by
  cases rest <;> simp [ofSteps, rank]

/-- A build as it may be found later: it is the same build, it has never gone back, and it has gone
on from where it was. -/
structure Job.Becomes (old new : Job) : Prop where
  push : new.push = old.push
  project : new.project = old.project
  rank : old.phase.rank ≤ new.phase.rank
  leads : ∃ h, Leads old.phase.steps h new.phase.steps

namespace Job.Becomes

theorem refl (job : Job) : job.Becomes job := ⟨rfl, rfl, Nat.le_refl _, [], .refl _⟩

theorem trans {first second third : Job} (hf : first.Becomes second) (hs : second.Becomes third) :
    first.Becomes third := by
  obtain ⟨h, hl⟩ := hf.leads
  obtain ⟨h', hl'⟩ := hs.leads
  exact ⟨hs.push.trans hf.push, hs.project.trans hf.project, Nat.le_trans hf.rank hs.rank,
    h ++ h', hl.append hl'⟩

/-- A build that has come to its end stays as it is. -/
theorem eq_of_finished {old new : Job} (becomes : old.Becomes new) {state : BuildState}
    (finished : old.phase = .finished state) : new = old := by
  obtain ⟨push, project, phase⟩ := new
  obtain ⟨push', project', phase'⟩ := old
  obtain ⟨rfl, rfl, rank, h, hl⟩ := becomes
  cases finished
  obtain ⟨-, hr⟩ := hl.eq_of_done
  cases phase with
  | finished state' => cases hr; rfl
  | waiting steps => simp [Phase.rank] at rank
  | running rest => simp [Phase.rank] at rank

end Job.Becomes

/-- No move loses a build. -/
theorem Next.becomes {settings : Build.Settings} {pool after : Pool}
    {builds : List (Push × ProjectRecord)} {answers : List (Nat × Build.Exchange)}
    (next : Next settings pool builds answers after) {i : Nat} {job : Job}
    (found : pool.jobs[i]? = some job) : ∃ job', after.jobs[i]? = some job' ∧ job.Becomes job' := by
  cases next with
  | same => exact ⟨job, found, .refl job⟩
  | dispatched push project =>
    have old : i < pool.jobs.length := (List.getElem?_eq_some_iff.mp found).1
    exact ⟨job, by simp only [Pool.dispatch]; rw [List.getElem?_append_left old, found], .refl job⟩
  | @started build push project steps waits free =>
    by_cases same : build = i
    · subst same
      rw [waits] at found
      cases found
      refine ⟨⟨push, project, .running steps⟩, ?_, rfl, rfl, Nat.zero_le _, [], .refl _⟩
      simp [Pool.setPhase, waits]
    · refine ⟨job, ?_, .refl job⟩
      simp [Pool.setPhase, same, found]
  | @stepped build push project rest exchanges rest' locks' runs progress =>
    by_cases same : build = i
    · subst same
      rw [runs] at found
      cases found
      obtain ⟨h, hl, -⟩ := progress.leads
      refine ⟨_, Pool.getElem?_proceed_self runs locks' rest', rfl, rfl, Phase.rank_ofSteps rest',
        h, ?_⟩
      rwa [Phase.steps_ofSteps]
    · exact ⟨job, by rw [Pool.getElem?_proceed_other same, found], .refl job⟩
  | closed => exact ⟨job, found, .refl job⟩

/-- What has been built is what was dispatched. -/
theorem Next.builds {settings : Build.Settings} {pool after : Pool}
    {builds : List (Push × ProjectRecord)} {answers : List (Nat × Build.Exchange)}
    (next : Next settings pool builds answers after) :
    after.jobs.map (fun job => (job.push, job.project))
      = pool.jobs.map (fun job => (job.push, job.project)) ++ builds := by
  have unchanged (build : Nat) (phase : Phase) :
      (pool.jobs.modify build fun job => { job with phase }).map
          (fun job => (job.push, job.project))
        = pool.jobs.map fun job => (job.push, job.project) := by
    apply List.ext_getElem?
    intro i
    rw [List.getElem?_map, List.getElem?_map, List.getElem?_modify]
    cases pool.jobs[i]? with
    | none => rfl
    | some job =>
      by_cases same : build = i <;> simp [same]
  cases next with
  | same => simp
  | dispatched push project => simp [Pool.dispatch]
  | @started build push project steps waits free =>
    simpa [Pool.setPhase] using unchanged build (.running steps)
  | @stepped build push project rest exchanges rest' locks' runs progress =>
    simpa using unchanged build (.ofSteps rest')
  | closed => simp [Pool.close]

variable {σ : Type} {settings : Build.Settings} {surroundings : Surroundings σ}

/-- What is answered to one build is added to its own calls alone. -/
theorem Course.calls_of_log {course course' : Course σ} {build : Nat}
    {exchanges : List Build.Exchange} (log : course'.log = course.log ++ entries build exchanges)
    (i : Nat) : course'.calls i = course.calls i ++ if build = i then exchanges else [] := by
  unfold calls
  rw [log, List.filter_append, List.map_append, entries]
  congr 1
  by_cases same : build = i
  · simp [same, List.filter_map, Function.comp_def]
  · simp [same, List.filter_map, Function.comp_def]

theorem Course.calls_of_same_log {course course' : Course σ} (log : course'.log = course.log)
    (i : Nat) : course'.calls i = course.calls i := by
  rw [calls, log, calls]

/-- Every build is run from its beginning, and its calls are the history of that run. Nothing is
called for a build that was not dispatched. -/
structure Traced (settings : Build.Settings) (course : Course σ) : Prop where
  run : ∀ {i : Nat} {job : Job}, course.pool.jobs[i]? = some job →
    ∃ h, Leads (Build.run settings job.push job.project) h job.phase.steps
      ∧ withoutLocks h = course.calls i ∧ (job.phase.isWaiting = true → h = [])
  silent : ∀ {i : Nat}, course.pool.jobs.length ≤ i → course.calls i = []

theorem Traced.next {course course' : Course σ} (traced : Traced settings course)
    {builds : List (Push × ProjectRecord)} {answers : List (Nat × Build.Exchange)}
    (log : course'.log = course.log ++ answers)
    (next : Next settings course.pool builds answers course'.pool) : Traced settings course' := by
  generalize ha : course'.pool = after at next
  have calls_kept (none_new : answers = []) (i : Nat) : course'.calls i = course.calls i :=
    Course.calls_of_same_log (by rw [log, none_new, List.append_nil]) i
  cases next with
  | same =>
    have kept := calls_kept rfl
    exact ⟨fun found => by rw [kept]; exact traced.run (ha ▸ found),
      fun beyond => by rw [kept]; exact traced.silent (ha ▸ beyond)⟩
  | dispatched push project =>
    have kept := calls_kept rfl
    constructor
    · intro i job found
      rw [ha, Pool.dispatch, List.getElem?_append] at found
      rw [kept]
      split at found
      · exact traced.run found
      · next fresh =>
        have new := List.mem_of_getElem? found
        rw [List.mem_singleton.mp new]
        exact ⟨[], .refl _, (traced.silent (Nat.le_of_not_lt fresh)).symm, fun _ => rfl⟩
    · intro i beyond
      rw [ha, Pool.dispatch, List.length_append] at beyond
      rw [kept]
      exact traced.silent (Nat.le_of_add_right_le beyond)
  | @started build push project steps waits free =>
    have kept := calls_kept rfl
    constructor
    · intro i job found
      rw [ha] at found
      rw [kept]
      by_cases same : build = i
      · subst same
        obtain ⟨h, hl, hc, -⟩ := traced.run waits
        obtain rfl : ⟨push, project, .running steps⟩ = job := by
          simpa [Pool.setPhase, waits] using found
        exact ⟨h, hl, hc, fun waiting => absurd waiting Bool.false_ne_true⟩
      · exact traced.run (by simpa [Pool.setPhase, same] using found)
    · intro i beyond
      rw [kept]
      exact traced.silent (by simpa [ha, Pool.setPhase] using beyond)
  | @stepped build push project rest exchanges rest' locks' runs progress =>
    have calls := Course.calls_of_log log
    constructor
    · intro i job found
      rw [ha] at found
      rw [calls]
      by_cases same : build = i
      · subst same
        rw [Pool.getElem?_proceed_self runs] at found
        cases found
        obtain ⟨h, hl, hc, -⟩ := traced.run runs
        obtain ⟨h', hl', hc'⟩ := progress.leads
        refine ⟨h ++ h', ?_, ?_, ?_⟩
        · show Leads _ _ (Phase.ofSteps rest').steps
          rw [Phase.steps_ofSteps]
          exact hl.append hl'
        · rw [withoutLocks_append, hc, hc', if_pos rfl]
        · intro waiting
          cases rest' <;> cases waiting
      · rw [Pool.getElem?_proceed_other same] at found
        rw [if_neg same, List.append_nil]
        exact traced.run found
    · intro i beyond
      have outside : course.pool.jobs.length ≤ i := by
        simpa [ha] using beyond
      have other : build ≠ i := by
        rintro rfl
        rw [List.getElem?_eq_none outside] at runs
        cases runs
      rw [calls, if_neg other, List.append_nil]
      exact traced.silent outside
  | closed =>
    have kept := calls_kept rfl
    exact ⟨fun found => by rw [kept]; exact traced.run (by rwa [ha] at found),
      fun beyond => by rw [kept]; exact traced.silent (by rwa [ha] at beyond)⟩

namespace Course

theorem run_traced (maxConcurrent : Nat) (state : σ) (moves : List (Move σ)) :
    Traced settings ((create maxConcurrent state).run settings surroundings moves) := by
  apply run_keeps settings surroundings (Traced settings)
  · intro course move traced
    obtain ⟨answers, log, next⟩ := after_next settings surroundings course move
    exact traced.next log next
  · constructor
    · intro i job found
      simp [create, Pool.create] at found
    · intro i beyond
      rfl

/-- Whatever happens, every build is found again later, where it was or further on. -/
theorem run_becomes (course : Course σ) (moves : List (Move σ)) {i : Nat} {job : Job}
    (found : course.pool.jobs[i]? = some job) :
    ∃ job', (course.run settings surroundings moves).pool.jobs[i]? = some job'
      ∧ job.Becomes job' := by
  apply run_keeps settings surroundings
    (fun course => ∃ job', course.pool.jobs[i]? = some job' ∧ job.Becomes job')
  · rintro course move ⟨job', found', becomes⟩
    obtain ⟨answers, -, next⟩ := after_next settings surroundings course move
    obtain ⟨job'', found'', becomes'⟩ := next.becomes found'
    exact ⟨job'', found'', becomes.trans becomes'⟩
  · exact ⟨job, found, .refl job⟩

/-- The builds of a pool are those that were dispatched, in this order. -/
theorem run_builds (maxConcurrent : Nat) (state : σ) (moves : List (Move σ)) :
    ((create maxConcurrent state).run settings surroundings moves).pool.jobs.map
        (fun job => (job.push, job.project))
      = moves.flatMap Move.builds := by
  suffices all : ∀ course : Course σ,
      (course.run settings surroundings moves).pool.jobs.map (fun job => (job.push, job.project))
        = course.pool.jobs.map (fun job => (job.push, job.project)) ++ moves.flatMap Move.builds by
    simpa [create, Pool.create] using all (create maxConcurrent state)
  induction moves with
  | nil => simp [run]
  | cons move moves ih =>
    intro course
    obtain ⟨answers, -, next⟩ := after_next settings surroundings course move
    have rest := ih (course.after settings surroundings move)
    rw [next.builds, List.append_assoc] at rest
    simpa [run] using rest

end Course

end BuildHook.Dispatch
