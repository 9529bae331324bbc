import BuildHook.Proofs.Build.Message
import BuildHook.Proofs.Build.Outcome
import BuildHook.Proofs.Build.Requests
import BuildHook.Proofs.Build.Sample
import BuildHook.Proofs.Procedure.Indifference

/-!
# Reports of a build

A build is reported exactly twice, unless its key cannot be staged: as pending before its work, and
with its outcome after it. Whether the reports arrive makes no difference to anything else.

## Main results

`run_reported` is the statement for a build among any surroundings; `leads_run_cases` is its form
for single histories.
-/

namespace BuildHook.Build

open Procedure

/-- A report on the head commit of a push. -/
def reportOn (settings : Settings) (push : Push) (state : BuildState) (message : String) :
    StatusUpdate where
  repository := push.repository.fullName
  revision := push.headCommit.id
  state := state
  message := message
  context := settings.context
  targetUrl := settings.targetUrl

/-- The report on a build that has begun. -/
def firstReport (settings : Settings) (push : Push) : StatusUpdate :=
  reportOn settings push .pending "Building"

/-- The report on a build that has ended. -/
def lastReport (settings : Settings) (push : Push) : Except BuildError Unit → StatusUpdate
  | .ok () => reportOn settings push .success "Build passed"
  | .error e => reportOn settings push .failure e.message

/-- A history with exactly two reports: one before all work, and one with the outcome of the work
after it. Only the key file is handled before the first and after the second. -/
def ReportedTwice (settings : Settings) (push : Push) (project : ProjectRecord)
    (h : List Exchange) (state : BuildState) : Prop :=
  ∃ before work after first last,
    h = before ++ ⟨.publish (firstReport settings push), first⟩ :: work
      ++ ⟨.publish (lastReport settings push (outcome settings push project work)), last⟩ :: after
    ∧ (∀ x ∈ before ++ after, x.question.kind = .key)
    ∧ (∀ x ∈ work, x.question.kind = .lock ∨ x.question.kind = .work)
    ∧ state = (lastReport settings push (outcome settings push project work)).state

/-- The report that a request sends. -/
def Request.report? : Request → Option StatusUpdate
  | .publish report => some report
  | _ => none

/-- The reports in a history. -/
def reportsOf (h : List Exchange) : List StatusUpdate := h.filterMap fun x => x.question.report?

variable {settings : Settings} {push : Push} {project : ProjectRecord} {h : List Exchange}
  {state : BuildState}

theorem reportsOf_append (first second : List Exchange) :
    reportsOf (first ++ second) = reportsOf first ++ reportsOf second := List.filterMap_append

theorem reportsOf_publish (report : StatusUpdate) (reply : Reply (.publish report))
    (h : List Exchange) : reportsOf (⟨.publish report, reply⟩ :: h) = report :: reportsOf h := rfl

theorem reportsOf_of_not_report (none_sent : ∀ x ∈ h, x.question.kind ≠ .report) :
    reportsOf h = [] := by
  apply List.filterMap_eq_nil_iff.mpr
  intro x hx
  have hk := none_sent x hx
  cases hq : x.question <;> first | rfl | exact absurd (by rw [hq]; rfl) hk

/-- A build that is reported twice sends no other report. -/
theorem ReportedTwice.reports (twice : ReportedTwice settings push project h state) :
    ∃ result, reportsOf h = [firstReport settings push, lastReport settings push result]
      ∧ state = (lastReport settings push result).state := by
  obtain ⟨before, work, after, first, last, rfl, hk, hw, hs⟩ := twice
  refine ⟨_, ?_, hs⟩
  have hb : reportsOf before = [] := reportsOf_of_not_report fun x hx => by
    rw [hk x (List.mem_append_left _ hx)]
    decide
  have ha : reportsOf after = [] := reportsOf_of_not_report fun x hx => by
    rw [hk x (List.mem_append_right _ hx)]
    decide
  have hm : reportsOf work = [] := reportsOf_of_not_report fun x hx => by
    rcases hw x hx with hx | hx <;> rw [hx] <;> decide
  rw [reportsOf_append, reportsOf_append, reportsOf_publish, reportsOf_publish, hb, hm, ha]
  rfl

theorem lastReport_state_ne_pending (settings : Settings) (push : Push)
    (result : Except BuildError Unit) :
    (lastReport settings push result).state ≠ .pending := by
  cases result <;> exact BuildState.noConfusion

theorem finalUpdate_eq_lastReport (result : Except BuildError Unit) :
    finalUpdate settings push result = lastReport settings push result := by
  cases result with
  | ok done => rfl
  | error e => rfl

theorem leads_reported {key : Option StagedKey}
    (hl : Leads (reported settings push project key) h (.done state)) :
    ReportedTwice settings push project h state := by
  change Leads (.ask (.publish (firstReport settings push)) _) h _ at hl
  cases hl with
  | @ask _ _ first h _ tail =>
    change Leads ((work settings push project key).andThen _) h _ at tail
    obtain ⟨result, work, h₂, rfl, hw, hb⟩ := (leads_andThen_iff _ _ _ _).mp tail
    have ends := work_outcome settings push project key hw
    change Leads (.ask (.publish (finalUpdate settings push result)) _) h₂ _ at hb
    rw [finalUpdate_eq_lastReport] at hb
    cases hb with
    | @ask _ _ last h _ tail =>
      obtain ⟨rfl, hr⟩ := tail.eq_of_done
      cases hr
      refine ⟨[], work, [], first, last, ?_, by simp, ?_, ?_⟩
      · rw [← ends]
        rfl
      · exact (work_asks settings push project key).forall_mem hw
      · rw [← ends]

/-- Handling the key file around them leaves the reports as they are. -/
theorem ReportedTwice.surround (hr : ReportedTwice settings push project h state)
    (before after : List Exchange) (hb : ∀ x ∈ before, x.question.kind = .key)
    (ha : ∀ x ∈ after, x.question.kind = .key) :
    ReportedTwice settings push project (before ++ h ++ after) state := by
  obtain ⟨before', work, after', first, last, rfl, hk, hw, hs⟩ := hr
  refine ⟨before ++ before', work, after' ++ after, first, last, by simp, ?_, hw, hs⟩
  intro x hx
  rcases List.mem_append.mp hx with hx | hx
  · rcases List.mem_append.mp hx with hx | hx
    · exact hb x hx
    · exact hk x (List.mem_append_left _ hx)
  · rcases List.mem_append.mp hx with hx | hx
    · exact hk x (List.mem_append_right _ hx)
    · exact ha x hx

/-- A whole build either has nothing but a key that could not be staged, or is reported twice. -/
theorem leads_run_cases (hl : Leads (run settings push project) h (.done state)) :
    (∃ key cause, project.usableKey = some key
      ∧ h = [⟨.stageKey (keyFileContent key), .error cause⟩] ∧ state = .error)
    ∨ ReportedTwice settings push project h state := by
  unfold run at hl
  cases hk : project.usableKey with
  | none =>
    rw [hk] at hl
    exact .inr (leads_reported hl)
  | some key =>
    rw [hk] at hl
    change Leads (.ask (.stageKey (keyFileContent key)) _) h _ at hl
    cases hl with
    | @ask _ _ staging h _ tail =>
      cases staging with
      | error cause =>
        obtain ⟨rfl, hr⟩ := tail.eq_of_done
        cases hr
        exact .inl ⟨key, cause, rfl, rfl, rfl⟩
      | ok staged =>
        change Leads ((reported settings push project (some staged)).andThen _) h _ at tail
        obtain ⟨state', h₁, h₂, rfl, hr, hd⟩ := (leads_andThen_iff _ _ _ _).mp tail
        change Leads (.ask (.discardKey staged) _) h₂ _ at hd
        cases hd with
        | @ask _ _ discarded h _ tail =>
          obtain ⟨rfl, he⟩ := tail.eq_of_done
          cases he
          right
          apply (leads_reported hr).surround [⟨_, _⟩] [⟨_, _⟩]
          · simp [Request.kind]
          · simp [Request.kind]

/-- Whether a request is a report. -/
def isReport (r : Request) : Bool := r.kind == .report

variable {σ : Type}

/-- The same surroundings, but for the answers to reports. -/
def withReplies (replies : StatusUpdate → σ → Except StatusError Unit)
    (answer : (r : Request) → σ → Reply r × σ) : (r : Request) → σ → Reply r × σ
  | .publish update, state => (replies update state, (answer (.publish update) state).2)
  | r, state => answer r state

theorem withReplies_of_not_report (replies : StatusUpdate → σ → Except StatusError Unit)
    (answer : (r : Request) → σ → Reply r × σ) {r : Request} (hr : isReport r = false) :
    withReplies replies answer r = answer r := by
  cases r with
  | publish update => cases hr
  | _ => rfl

theorem withReplies_state (replies : StatusUpdate → σ → Except StatusError Unit)
    (answer : (r : Request) → σ → Reply r × σ) (r : Request) (state : σ) :
    (withReplies replies answer r state).2 = (answer r state).2 := by
  cases r <;> rfl

theorem work_ignores (key : Option StagedKey) :
    (work settings push project key).Ignores fun r => isReport r = true := by
  apply Asks.ignores
  apply (work_asks settings push project key).mono
  intro r hr
  rcases hr with hr | hr <;> simp [isReport, hr]

theorem reported_ignores (key : Option StagedKey) :
    (reported settings push project key).Ignores fun r => isReport r = true :=
  ⟨fun _ _ _ => rfl, fun _ => (work_ignores key).andThen fun _ =>
    ⟨fun _ _ _ => rfl, fun _ => trivial⟩⟩

/-- No build looks at the answers to its reports. -/
theorem run_ignores : (run settings push project).Ignores fun r => isReport r = true := by
  unfold run
  cases project.usableKey with
  | none => exact reported_ignores none
  | some key =>
    constructor
    · intro hr
      exact absurd hr Bool.false_ne_true
    intro staging
    cases staging with
    | error cause => trivial
    | ok staged =>
      exact (reported_ignores (some staged)).andThen fun _ =>
        ⟨fun hr => absurd hr Bool.false_ne_true, fun _ => trivial⟩

/-- If its key, where it has one, could be staged, a build among any surroundings is reported
exactly twice: as pending before its work and with its outcome after it, where the message of a
failed build is never empty. The last state reported is the result. With other answers to the
reports the result, all requests, all other answers and the state of the surroundings are the
same. -/
theorem run_reported (settings : Settings) (push : Push) (project : ProjectRecord)
    (answer : (r : Request) → σ → Reply r × σ) (start : σ)
    (staged : ∀ key, project.usableKey = some key →
      ∃ file, (answer (.stageKey (keyFileContent key)) start).1 = .ok file) :
    ReportedTwice settings push project ((run settings push project).history answer start)
      ((run settings push project).run answer start).1
    ∧ (∀ e : BuildError, (lastReport settings push (.error e)).message ≠ "")
    ∧ ∀ replies : StatusUpdate → σ → Except StatusError Unit,
      let whole := run settings push project
      let other := withReplies replies answer
      whole.run other start = whole.run answer start
      ∧ (whole.history other start).map (·.question) = (whole.history answer start).map (·.question)
      ∧ (whole.history other start).filter (fun x => !isReport x.question)
        = (whole.history answer start).filter fun x => !isReport x.question := by
  refine ⟨?_, fun e => e.message_ne_empty, ?_⟩
  · rcases leads_run_cases (leads_history answer (run settings push project) start) with
      ⟨key, cause, hk, hh, -⟩ | twice
    · obtain ⟨file, hf⟩ := staged key hk
      have first : (run settings push project).history answer start
          = ⟨.stageKey (keyFileContent key), (answer (.stageKey (keyFileContent key)) start).1⟩
            :: ((run settings push project).history answer start).tail := by
        unfold run
        rw [hk]
        rfl
      rw [first, hf] at hh
      cases hh
    · exact twice
  · intro replies
    exact run_ignores.run_eq (fun r hr => withReplies_of_not_report replies answer hr)
      (withReplies_state replies answer) start

/-- The sample build, whose reports are lost and whose checkout fails. -/
theorem run_reported_failed_checkout :
    (∀ key, Sample.project.usableKey = some key →
      ∃ file, (Sample.answer (.stageKey (keyFileContent key)) 0).1 = .ok file)
    ∧ ReportedTwice Sample.settings (Sample.pushTo "a/b") Sample.project
      ((run Sample.settings (Sample.pushTo "a/b") Sample.project).history Sample.answer 0)
      .failure :=
  ⟨fun _ _ => ⟨_, rfl⟩,
    (run_reported Sample.settings (Sample.pushTo "a/b") Sample.project Sample.answer 0
      fun _ _ => ⟨_, rfl⟩).1⟩

end BuildHook.Build
