import BuildHook.Proofs.Build.Reports

/-!
# The word of a build

The calls of a build are a fixed word, cut right after the first letter that aborts the build. Each
letter is a call with its answer, or a check without a call, and knows the error with which it
aborts the build if it does.

## Main results

`word` is the whole word, `cut` cuts it, and `run_spelled` says that every build among any
surroundings makes exactly these calls, and ends as its cut word does.
-/

namespace BuildHook.Build

open Procedure

/-- What the calls of a build are answered, if they are made. -/
structure Answers where
  made : Except IoError Unit
  cloned : Except GitError Unit
  updated : Except GitError Unit
  checkedOut : Except GitError Unit
  definition : Except IoError String
  bound : String → Except SandboxError Unit
  evaluated : Except SandboxError Unit
  loaded : Except SandboxError Unit

/-- A letter of the word of a build: a call with its answer, or a check without one, and the error
with which it aborts the build, if it does. -/
structure Letter where
  call : Option Exchange
  abort : Option BuildError

/-- A word up to the first letter that aborts, with the calls that are made and the end of the
build. -/
def cut : List Letter → List Exchange × Except BuildError Unit
  | [] => ([], .ok ())
  | letter :: rest =>
    match letter.abort with
    | some e => (letter.call.toList, .error e)
    | none => (letter.call.toList ++ (cut rest).1, (cut rest).2)

/-- The error of an answer, in its context. -/
def failure {ε α : Type} (context : ε → BuildError) : Except ε α → Option BuildError
  | .ok _ => none
  | .error e => some (context e)

/-- The letters that bring a revision into a working copy. A failed clone aborts nothing, but is
followed by an update. -/
def fetchLetters (url dest revision : String) (key : Option StagedKey)
    (cloned updated checkedOut : Except GitError Unit) : List Letter :=
  ⟨some ⟨.clone url dest key, cloned⟩, none⟩
  :: (match cloned with
    | .ok () => []
    | .error failedClone =>
      [⟨some ⟨.update dest key, updated⟩, failure (.clone url failedClone) updated⟩])
  ++ [⟨some ⟨.checkout dest revision, checkedOut⟩, failure (.checkout revision) checkedOut⟩]

/-- The letters that bind values. -/
def bindLetters (values : List (String × Json)) (bound : String → Except SandboxError Unit) :
    List Letter :=
  values.map fun (name, value) =>
    ⟨some ⟨.bind name value, bound name⟩,
      failure (fun cause => .script (.bootstrap cause)) (bound name)⟩

/-- The letters that run a definition through the runner script. -/
def scriptLetters (wrapped runner : String) (evaluated loaded : Except SandboxError Unit) :
    List Letter :=
  [⟨some ⟨.evaluate wrapped, evaluated⟩,
      failure (fun cause => .script (.malformedDefinition cause wrapped)) evaluated⟩,
    ⟨some ⟨.load runner, loaded⟩, failure (fun cause => .script (.runner runner cause)) loaded⟩]

/-- The values that a script sees, in the order of binding. -/
def boundValues (push : Push) (project : ProjectRecord) : List (String × Json) :=
  [("pushRecord", push.toJson.canonical),
    ("sshKey", .string (flattenKey (project.sshKey.getD ""))),
    ("configName", .string (Project.key push.repository.fullName)),
    ("eventName", .string "push")]

/-- The letters from the clone on. -/
def revisionLetters (settings : Settings) (push : Push) (project : ProjectRecord)
    (key : Option StagedKey) (dest url : String) (answers : Answers) : List Letter :=
  let path := Path.join dest "pipeline.js"
  fetchLetters url dest push.headCommit.id key answers.cloned answers.updated answers.checkedOut
  ++ (⟨some ⟨.readText path, answers.definition⟩, failure (.definition path) answers.definition⟩
  :: ⟨some ⟨.openSandbox dest, ()⟩, none⟩
  :: (bindLetters (boundValues push project) answers.bound
  ++ scriptLetters (wrapDefinition (answers.definition.toOption.getD "")) settings.runnerScript
    answers.evaluated answers.loaded))

/-- The whole word of a build. -/
def word (settings : Settings) (push : Push) (project : ProjectRecord) (key : Option StagedKey)
    (answers : Answers) : List Letter :=
  let name := push.repository.fullName
  let dest := Path.join settings.cacheRoot name
  let url :=
    if project.hasSshKey then push.repository.sshUrl.getD "" else push.repository.cloneUrl
  ⟨none, if Workspace.accepts name then none else some (.invalidRepository name)⟩
  :: ⟨some ⟨.makeDirectories dest, answers.made⟩, failure (.workspace dest) answers.made⟩
  :: ⟨none, if project.hasSshKey && push.repository.sshUrl.isNone then some .missingSshUrl
    else none⟩
  :: revisionLetters settings push project key dest url answers

/-- The calls in a history: what is asked of git, of the sandbox and of the files. -/
def callsOf (h : List Exchange) : List Exchange := h.filter fun x => x.question.kind == .work

/-- Whether a history has exactly the calls of a build that ends so. -/
def Spelled (settings : Settings) (push : Push) (project : ProjectRecord)
    (key : Option StagedKey) (h : List Exchange) (result : Except BuildError Unit) : Prop :=
  ∃ answers, cut (word settings push project key answers) = (callsOf h, result)
    ∧ (result = .ok () ↔ ∀ letter ∈ word settings push project key answers, letter.abort = none)

/-- The key file that a build uses: none without a key, and else the one in which the key was
staged. -/
def Uses (project : ProjectRecord) (h : List Exchange) : Option StagedKey → Prop
  | none => project.usableKey = none
  | some file => ∃ content, project.usableKey = some content
    ∧ ⟨.stageKey (keyFileContent content), .ok file⟩ ∈ h

/-- A word in which no letter aborts is not cut, and else the build fails. -/
theorem cut_ok_iff (letters : List Letter) :
    (cut letters).2 = .ok () ↔ ∀ letter ∈ letters, letter.abort = none := by
  induction letters with
  | nil => simp [cut]
  | cons letter rest ih =>
    cases ha : letter.abort with
    | none => simp [cut, ha, ih]
    | some e => simp [cut, ha]

/-- A letter that does not abort is followed by the rest. -/
theorem cut_cons {letter : Letter} {rest : List Letter} {h : List Exchange}
    {result : Except BuildError Unit} (passes : letter.abort = none)
    (tail : cut rest = (h, result)) :
    cut (letter :: rest) = (letter.call.toList ++ h, result) := by
  simp only [cut, passes, tail]

/-- A letter that aborts is the last one. -/
theorem cut_cons_abort {letter : Letter} {e : BuildError} (aborts : letter.abort = some e)
    (rest : List Letter) : cut (letter :: rest) = (letter.call.toList, .error e) := by
  simp only [cut, aborts]

/-- What follows an uncut word is read on. -/
theorem cut_append_ok {first second : List Letter} {h h' : List Exchange}
    {result : Except BuildError Unit} (whole : cut first = (h, .ok ()))
    (tail : cut second = (h', result)) : cut (first ++ second) = (h ++ h', result) := by
  induction first generalizing h with
  | nil =>
    cases whole
    exact tail
  | cons letter rest ih =>
    cases ha : letter.abort with
    | some e => simp [cut_cons_abort ha] at whole
    | none =>
      simp only [cut, ha, Prod.mk.injEq] at whole
      obtain ⟨rfl, ends⟩ := whole
      rw [List.cons_append, cut_cons ha (ih (Prod.ext rfl ends)), List.append_assoc]

/-- What follows a cut word is never read. -/
theorem cut_append_error {first : List Letter} {h : List Exchange} {e : BuildError}
    (aborted : cut first = (h, .error e)) (second : List Letter) :
    cut (first ++ second) = (h, .error e) := by
  induction first generalizing h with
  | nil => cases aborted
  | cons letter rest ih =>
    cases ha : letter.abort with
    | some e' =>
      rw [cut_cons_abort ha] at aborted
      rw [List.cons_append, cut_cons_abort ha, aborted]
    | none =>
      simp only [cut, ha, Prod.mk.injEq] at aborted
      obtain ⟨rfl, ends⟩ := aborted
      rw [List.cons_append, cut_cons ha (ih (Prod.ext rfl ends))]

variable {ε δ α β : Type} {h : List Exchange}

/-- An attempt in two parts fails with the first, or goes on with the second. -/
theorem leads_bind_cases {x : Attempt ε α} {f : α → Attempt ε β} {result : Except ε β}
    (hl : Leads (x >>= f).run h (.done result)) :
    (∃ e, Leads x.run h (.done (.error e)) ∧ result = .error e)
    ∨ ∃ a h₁ h₂, h = h₁ ++ h₂ ∧ Leads x.run h₁ (.done (.ok a))
      ∧ Leads (f a).run h₂ (.done result) := by
  obtain ⟨answer, h₁, h₂, rfl, ha, hd⟩ := (leads_andThen_iff _ _ _ _).mp hl
  cases answer with
  | error e =>
    obtain ⟨rfl, hr⟩ := hd.eq_of_done
    cases hr
    exact .inl ⟨e, by rwa [List.append_nil], rfl⟩
  | ok a => exact .inr ⟨a, h₁, h₂, rfl, ha, hd⟩

theorem leads_check {steps : Steps (Except δ α)} {context : δ → ε} {result : Except ε α}
    (hl : Leads (check steps context).run h (.done result)) :
    ∃ answer, Leads steps h (.done answer) ∧ result = answer.mapError context := by
  obtain ⟨answer, h₁, h₂, rfl, ha, hd⟩ := (leads_andThen_iff _ _ _ _).mp hl
  obtain ⟨rfl, hr⟩ := hd.eq_of_done
  cases hr
  exact ⟨answer, by rwa [List.append_nil], rfl⟩

/-- Bringing in a revision spells its letters. -/
theorem leads_fetchRevision {url dest revision : String} {key : Option StagedKey}
    {result : Except BuildError Unit}
    (hl : Leads (fetchRevision url dest revision key).run h (.done result)) :
    ∃ cloned updated checkedOut,
      cut (fetchLetters url dest revision key cloned updated checkedOut) = (h, result) := by
  rcases leads_bind_cases hl with ⟨e, hc, rfl⟩ | ⟨fetched, h₁, h₂, rfl, hc, hd⟩
  · change Leads (.ask (.clone url dest key) _) h _ at hc
    cases hc with
    | @ask _ _ cloned h _ tail =>
      cases cloned with
      | ok done => cases tail.eq_of_done.2
      | error failedClone =>
        obtain ⟨updated, ha, hr⟩ := leads_check tail
        obtain rfl := (leads_question_iff _ _ _).mp ha
        cases updated with
        | ok done => cases hr
        | error failedUpdate =>
          cases hr
          exact ⟨.error failedClone, .error failedUpdate, .ok (), rfl⟩
  · obtain ⟨checkedOut, ha, rfl⟩ := leads_check hd
    obtain rfl := (leads_question_iff _ _ _).mp ha
    change Leads (.ask (.clone url dest key) _) h₁ _ at hc
    cases hc with
    | @ask _ _ cloned h _ tail =>
      cases cloned with
      | ok done =>
        obtain ⟨rfl, -⟩ := tail.eq_of_done
        refine ⟨.ok (), .ok (), checkedOut, ?_⟩
        cases checkedOut <;> rfl
      | error failedClone =>
        obtain ⟨updated, ha, hr⟩ := leads_check tail
        obtain rfl := (leads_question_iff _ _ _).mp ha
        cases updated with
        | error failedUpdate => cases hr
        | ok done =>
          refine ⟨.error failedClone, .ok (), checkedOut, ?_⟩
          cases checkedOut <;> rfl

theorem bindLetters_cons (name : String) (value : Json) (rest : List (String × Json))
    (bound : String → Except SandboxError Unit) :
    bindLetters ((name, value) :: rest) bound
      = ⟨some ⟨.bind name value, bound name⟩,
          failure (fun cause => .script (.bootstrap cause)) (bound name)⟩
        :: bindLetters rest bound :=
  rfl

/-- Binding values spells their letters, if no two of them have one name. -/
theorem leads_bindAll {values : List (String × Json)} (distinct : (values.map (·.1)).Nodup)
    {result : Except ScriptError Unit} (hl : Leads (bindAll values).run h (.done result)) :
    ∃ bound, cut (bindLetters values bound) = (h, result.mapError .script) := by
  induction values generalizing h with
  | nil =>
    obtain ⟨rfl, hr⟩ := hl.eq_of_done
    cases hr
    exact ⟨fun _ => .ok (), rfl⟩
  | cons binding rest ih =>
    obtain ⟨name, value⟩ := binding
    obtain ⟨fresh, distinct⟩ := List.nodup_cons.mp distinct
    rcases leads_bind_cases hl with ⟨e, hb, rfl⟩ | ⟨bound, h₁, h₂, rfl, hb, hd⟩
    · obtain ⟨reply, ha, hr⟩ := leads_check hb
      obtain rfl := (leads_question_iff _ _ _).mp ha
      cases reply with
      | ok done => cases hr
      | error cause =>
        cases hr
        exact ⟨fun _ => .error cause, rfl⟩
    · obtain ⟨reply, ha, hr⟩ := leads_check hb
      obtain rfl := (leads_question_iff _ _ _).mp ha
      cases reply with
      | error cause => cases hr
      | ok done =>
        obtain ⟨bound, spelled⟩ := ih distinct hd
        refine ⟨fun other => if other = name then .ok () else bound other, ?_⟩
        have unchanged :
            bindLetters rest (fun other => if other = name then .ok () else bound other)
              = bindLetters rest bound := by
          apply List.map_congr_left
          rintro ⟨other, value'⟩ member
          have different : other ≠ name := by
            rintro rfl
            exact fresh (List.mem_map.mpr ⟨_, member, rfl⟩)
          simp only [if_neg different]
        rw [bindLetters_cons, unchanged, if_pos rfl]
        exact cut_cons rfl spelled

/-- Running a definition spells its letters behind those of the context. -/
theorem leads_runScripts {context : ScriptContext} {definition runner : String}
    (distinct : (context.bindings.map (·.1)).Nodup) {result : Except ScriptError Unit}
    (hl : Leads (runScripts context definition runner).run h (.done result)) :
    ∃ bound evaluated loaded,
      cut (bindLetters context.bindings bound
        ++ scriptLetters (wrapDefinition definition) runner evaluated loaded)
        = (h, result.mapError .script) := by
  rcases leads_bind_cases hl with ⟨e, hb, rfl⟩ | ⟨done, h₁, h₂, rfl, hb, hd⟩
  · obtain ⟨bound, spelled⟩ := leads_bindAll distinct hb
    exact ⟨bound, .ok (), .ok (), cut_append_error spelled _⟩
  obtain ⟨bound, spelled⟩ := leads_bindAll distinct hb
  rcases leads_bind_cases hd with ⟨e, he, rfl⟩ | ⟨checked, h₃, h₄, rfl, he, hf⟩
  · obtain ⟨evaluated, ha, hr⟩ := leads_check he
    obtain rfl := (leads_question_iff _ _ _).mp ha
    cases evaluated with
    | ok done => cases hr
    | error cause =>
      cases hr
      exact ⟨bound, .error cause, .ok (), cut_append_ok spelled (cut_cons_abort rfl _)⟩
  · obtain ⟨evaluated, ha, hr⟩ := leads_check he
    obtain rfl := (leads_question_iff _ _ _).mp ha
    obtain ⟨loaded, ha, rfl⟩ := leads_check hf
    obtain rfl := (leads_question_iff _ _ _).mp ha
    cases evaluated with
    | error cause => cases hr
    | ok done =>
      have last : cut [⟨some ⟨.load runner, loaded⟩,
          failure (fun cause => .script (.runner runner cause)) loaded⟩]
          = ([⟨.load runner, loaded⟩], (loaded.mapError (.runner runner)).mapError .script) := by
        cases loaded <;> rfl
      exact ⟨bound, .ok (), loaded, cut_append_ok spelled (cut_cons rfl last)⟩

theorem leads_buildRevision {settings : Settings} {push : Push} {project : ProjectRecord}
    {key : Option StagedKey} {dest url : String} {result : Except BuildError Unit}
    (hl : Leads (buildRevision settings push project key dest url).run h (.done result))
    (made : Except IoError Unit) :
    ∃ answers, answers.made = made
      ∧ cut (revisionLetters settings push project key dest url answers) = (h, result) := by
  rcases leads_bind_cases hl with ⟨e, hf, rfl⟩ | ⟨fetched, h₁, h₂, rfl, hf, hd⟩
  · obtain ⟨cloned, updated, checkedOut, fetch⟩ := leads_fetchRevision hf
    exact ⟨⟨made, cloned, updated, checkedOut, .ok "", fun _ => .ok (), .ok (), .ok ()⟩, rfl,
      cut_append_error fetch _⟩
  obtain ⟨cloned, updated, checkedOut, fetch⟩ := leads_fetchRevision hf
  rcases leads_bind_cases hd with ⟨e, hr, rfl⟩ | ⟨definition, h₃, h₄, rfl, hr, ho⟩
  · obtain ⟨read, ha, ends⟩ := leads_check hr
    obtain rfl := (leads_question_iff _ _ _).mp ha
    cases read with
    | ok text => cases ends
    | error cause =>
      cases ends
      exact ⟨⟨made, cloned, updated, checkedOut, .error cause, fun _ => .ok (), .ok (), .ok ()⟩,
        rfl, cut_append_ok fetch (cut_cons_abort rfl _)⟩
  obtain ⟨read, ha, ends⟩ := leads_check hr
  obtain rfl := (leads_question_iff _ _ _).mp ha
  cases read with
  | error cause => cases ends
  | ok text =>
    obtain rfl : definition = text := Except.ok.inj ends
    change Leads (.ask (.openSandbox dest) _) h₄ _ at ho
    cases ho with
    | @ask _ _ opened h _ tail =>
      obtain ⟨ends, hs, rfl⟩ := leads_check tail
      have distinct :
          ((ScriptContext.ofPush push project.sshKey).bindings.map (·.1)).Nodup := by
        show ["pushRecord", "sshKey", "configName", "eventName"].Nodup
        decide
      obtain ⟨bound, evaluated, loaded, scripts⟩ := leads_runScripts distinct hs
      exact ⟨⟨made, cloned, updated, checkedOut, .ok definition, bound, evaluated, loaded⟩, rfl,
        cut_append_ok fetch (cut_cons rfl (cut_cons rfl scripts))⟩

/-- The address that is cloned is the one for keys exactly if the project has a key. -/
theorem cloneAddress_url {push : Push} {project : ProjectRecord} {url : String}
    (found : cloneAddress push project = .ok url) :
    url = if project.hasSshKey then push.repository.sshUrl.getD "" else push.repository.cloneUrl
    := by
  unfold cloneAddress at found
  split at found
  · next keyed =>
    rw [if_pos keyed]
    cases hu : push.repository.sshUrl with
    | none =>
      rw [hu] at found
      cases found
    | some url' =>
      rw [hu] at found
      exact (Except.ok.inj found).symm
  · next keyless =>
    rw [if_neg keyless]
    exact (Except.ok.inj found).symm

/-- The calls of a build in its workspace are its word, if the name is accepted. -/
theorem leads_inWorkspace {settings : Settings} {push : Push} {project : ProjectRecord}
    {key : Option StagedKey} (accepted : Workspace.accepts push.fullName = true)
    {result : Except BuildError Unit}
    (hl : Leads (inWorkspace settings push project key
      (Path.join settings.cacheRoot push.fullName)).run h (.done result)) :
    ∃ answers, cut (word settings push project key answers) = (h, result) := by
  have named : (if Workspace.accepts push.repository.fullName then none
      else some (BuildError.invalidRepository push.repository.fullName)) = none := if_pos accepted
  rcases leads_bind_cases hl with ⟨e, hm, rfl⟩ | ⟨done, h₁, h₂, rfl, hm, hd⟩
  · obtain ⟨made, ha, ends⟩ := leads_check hm
    obtain rfl := (leads_question_iff _ _ _).mp ha
    cases made with
    | ok done => cases ends
    | error cause =>
      cases ends
      exact ⟨⟨.error cause, .ok (), .ok (), .ok (), .ok "", fun _ => .ok (), .ok (), .ok ()⟩,
        cut_cons named (cut_cons_abort rfl _)⟩
  obtain ⟨made, ha, ends⟩ := leads_check hm
  obtain rfl := (leads_question_iff _ _ _).mp ha
  cases made with
  | error cause => cases ends
  | ok done =>
    rcases cloneAddress_eq push project with ⟨url, hu, hk⟩ | ⟨hu, hk⟩
    · rw [hu] at hd
      obtain ⟨answers, hmade, spelled⟩ := leads_buildRevision hd (.ok ())
      have there : (if project.hasSshKey && push.repository.sshUrl.isNone
          then some BuildError.missingSshUrl else none) = none := by
        rw [hk]
        rfl
      have passes : failure (BuildError.workspace (Path.join settings.cacheRoot
          push.repository.fullName)) answers.made = none := by
        rw [hmade]
        rfl
      rw [cloneAddress_url hu] at spelled
      refine ⟨answers, (cut_cons named (cut_cons passes (cut_cons there spelled))).trans ?_⟩
      rw [hmade]
      rfl
    · rw [hu] at hd
      obtain ⟨rfl, hr⟩ := hd.eq_of_done
      cases hr
      have missing : (if project.hasSshKey && push.repository.sshUrl.isNone
          then some BuildError.missingSshUrl else none) = some .missingSshUrl := if_pos hk
      exact ⟨⟨.ok (), .ok (), .ok (), .ok (), .ok "", fun _ => .ok (), .ok (), .ok ()⟩,
        cut_cons named (cut_cons rfl (cut_cons_abort missing _))⟩

variable {settings : Settings} {push : Push} {project : ProjectRecord}

theorem callsOf_append (first second : List Exchange) :
    callsOf (first ++ second) = callsOf first ++ callsOf second := List.filter_append ..

/-- The calls of the work of a build are its word. -/
theorem leads_work {key : Option StagedKey} {result : Except BuildError Unit}
    (hl : Leads (work settings push project key) h (.done result)) :
    Spelled settings push project key h result := by
  suffices spelled : ∃ answers,
      cut (word settings push project key answers) = (callsOf h, result) by
    obtain ⟨answers, spelled⟩ := spelled
    refine ⟨answers, spelled, ?_⟩
    rw [← cut_ok_iff, spelled]
  unfold work at hl
  by_cases accepted : Workspace.accepts push.fullName = true
  · have found : Workspace.dir? settings.cacheRoot push.fullName
        = some (Path.join settings.cacheRoot push.fullName) := if_pos accepted
    rw [found] at hl
    change Leads (.ask (.enter _) _) h _ at hl
    cases hl with
    | ask tail =>
      change Leads ((inWorkspace settings push project key _).run.andThen _) _ _ at tail
      obtain ⟨answer, h₁, h₂, rfl, hw, hb⟩ := (leads_andThen_iff _ _ _ _).mp tail
      change Leads (.ask (.leave _) _) h₂ _ at hb
      cases hb with
      | ask tail =>
        obtain ⟨rfl, hr⟩ := tail.eq_of_done
        cases hr
        obtain ⟨answers, spelled⟩ := leads_inWorkspace accepted hw
        have inner : callsOf h₁ = h₁ := by
          apply List.filter_eq_self.mpr
          intro x hx
          simpa using ((inWorkspace_asks settings push project key _).forall_mem hw x hx).kind_eq
        refine ⟨answers, spelled.trans ?_⟩
        show (h₁, _) = (callsOf ([⟨.enter _, _⟩] ++ (h₁ ++ [⟨.leave _, _⟩])), _)
        rw [callsOf_append, callsOf_append, inner]
        simp [callsOf, Request.kind]
  · have refused : Workspace.dir? settings.cacheRoot push.fullName = none := if_neg accepted
    rw [refused] at hl
    obtain ⟨rfl, hr⟩ := hl.eq_of_done
    cases hr
    have unnamed : (if Workspace.accepts push.repository.fullName then none
        else some (BuildError.invalidRepository push.repository.fullName))
        = some (.invalidRepository push.fullName) := if_neg accepted
    exact ⟨⟨.ok (), .ok (), .ok (), .ok (), .ok "", fun _ => .ok (), .ok (), .ok ()⟩,
      cut_cons_abort unnamed _⟩

/-- Around the calls of a build are its two reports, of which the second tells how they ended. -/
theorem leads_reported_spelled {key : Option StagedKey} {state : BuildState}
    (hl : Leads (reported settings push project key) h (.done state)) :
    ∃ result, Spelled settings push project key h result
      ∧ reportsOf h = [firstReport settings push, lastReport settings push result]
      ∧ state = (lastReport settings push result).state := by
  change Leads (.ask (.publish (firstReport settings push)) _) h _ at hl
  cases hl with
  | ask tail =>
    change Leads ((work settings push project key).andThen _) _ _ at tail
    obtain ⟨result, calls, h₂, rfl, hw, hb⟩ := (leads_andThen_iff _ _ _ _).mp tail
    change Leads (.ask (.publish (finalUpdate settings push result)) _) h₂ _ at hb
    rw [finalUpdate_eq_lastReport] at hb
    cases hb with
    | ask tail =>
      obtain ⟨rfl, hr⟩ := tail.eq_of_done
      cases hr
      refine ⟨result, ?_, ?_, rfl⟩
      · obtain ⟨answers, spelled, ends⟩ := leads_work hw
        refine ⟨answers, spelled.trans ?_, ends⟩
        show (callsOf calls, _) = (callsOf ([⟨.publish _, _⟩] ++ (calls ++ [⟨.publish _, _⟩])), _)
        rw [callsOf_append, callsOf_append]
        simp [callsOf, Request.kind]
      · have unreported : reportsOf calls = [] := reportsOf_of_not_report fun x hx => by
          rcases (work_asks settings push project key).forall_mem hw x hx with hk | hk <;>
            rw [hk] <;> decide
        rw [reportsOf_publish, reportsOf_append, unreported]
        rfl

/-- Staging and discarding the key adds no call and no report. -/
theorem leads_run_spelled {state : BuildState}
    (hl : Leads (run settings push project) h (.done state)) :
    (∃ content cause, project.usableKey = some content
      ∧ h = [⟨.stageKey (keyFileContent content), .error cause⟩] ∧ state = .error)
    ∨ ∃ key result, Uses project h key ∧ Spelled settings push project key h result
      ∧ reportsOf h = [firstReport settings push, lastReport settings push result]
      ∧ state = (lastReport settings push result).state := by
  unfold run at hl
  cases hk : project.usableKey with
  | none =>
    rw [hk] at hl
    obtain ⟨result, spelled⟩ := leads_reported_spelled hl
    exact .inr ⟨none, result, hk, spelled⟩
  | some content =>
    rw [hk] at hl
    change Leads (.ask (.stageKey (keyFileContent content)) _) h _ at hl
    cases hl with
    | @ask _ _ staging h _ tail =>
      cases staging with
      | error cause =>
        obtain ⟨rfl, hr⟩ := tail.eq_of_done
        cases hr
        exact .inl ⟨content, cause, rfl, rfl, rfl⟩
      | ok file =>
        change Leads ((reported settings push project (some file)).andThen _) h _ at tail
        obtain ⟨state', h₁, h₂, rfl, hr, hd⟩ := (leads_andThen_iff _ _ _ _).mp tail
        change Leads (.ask (.discardKey file) _) h₂ _ at hd
        cases hd with
        | ask tail =>
          obtain ⟨rfl, he⟩ := tail.eq_of_done
          cases he
          obtain ⟨result, ⟨answers, spelled, ends⟩, reports, hs⟩ := leads_reported_spelled hr
          refine .inr ⟨some file, result, ⟨content, hk, List.mem_cons_self⟩,
            ⟨answers, spelled.trans ?_, ends⟩, Eq.trans ?_ reports, hs⟩
          · show _ = (callsOf ([⟨.stageKey _, _⟩] ++ (h₁ ++ [⟨.discardKey _, _⟩])), _)
            rw [callsOf_append, callsOf_append]
            simp [callsOf, Request.kind]
          · show reportsOf ([⟨.stageKey _, _⟩] ++ (h₁ ++ [⟨.discardKey _, _⟩])) = _
            rw [reportsOf_append, reportsOf_append]
            simp [reportsOf, Request.report?]

/-- Whatever its surroundings answer, the calls of a build are its word, cut right after the first
letter that aborts, and the build succeeds exactly if no letter aborts. A whole build has these
calls between its two reports, the second of which tells how they ended, unless its key could not be
staged: then it makes no call and no report. -/
theorem run_spelled {σ : Type} (settings : Settings) (push : Push) (project : ProjectRecord)
    (answer : (r : Request) → σ → Reply r × σ) (start : σ) :
    (∀ key, Spelled settings push project key
      ((work settings push project key).history answer start)
      ((work settings push project key).run answer start).1)
    ∧ let whole := (run settings push project).history answer start
      let ends := ((run settings push project).run answer start).1
      (∃ content cause, project.usableKey = some content
        ∧ whole = [⟨.stageKey (keyFileContent content), .error cause⟩] ∧ ends = .error)
      ∨ ∃ key result, Uses project whole key ∧ Spelled settings push project key whole result
        ∧ reportsOf whole = [firstReport settings push, lastReport settings push result]
        ∧ ends = (lastReport settings push result).state :=
  ⟨fun _ => leads_work (leads_history _ _ _), leads_run_spelled (leads_history _ _ _)⟩

end BuildHook.Build
