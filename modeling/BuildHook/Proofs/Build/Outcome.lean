import BuildHook.Build.Run

/-!
# Outcomes of builds

The history of the work tells how a build ends, without the build: the first call that failed ended
it, except that a failed clone counts only together with the update after it. Two ends leave no
failed call behind: a repository whose name is refused, and a key without an address for it.

## Main results

`work_outcome` says that a build ends as its history tells.
-/

namespace BuildHook.Build

open Procedure

/-- The error of the first call that ended a build. `failedClone` holds the clone that failed
before, with its address. -/
def abortedBy (failedClone : Option (String × GitError)) : List Exchange → Option BuildError
  | [] => none
  | ⟨.makeDirectories path, .error cause⟩ :: _ => some (.workspace path cause)
  | ⟨.clone url _ _, .error cause⟩ :: rest => abortedBy (some (url, cause)) rest
  | ⟨.update _ _, .error cause⟩ :: _ => failedClone.map fun (url, first) => .clone url first cause
  | ⟨.checkout _ revision, .error cause⟩ :: _ => some (.checkout revision cause)
  | ⟨.readText path, .error cause⟩ :: _ => some (.definition path cause)
  | ⟨.bind _ _, .error cause⟩ :: _ => some (.script (.bootstrap cause))
  | ⟨.evaluate source, .error cause⟩ :: _ => some (.script (.malformedDefinition cause source))
  | ⟨.load path, .error cause⟩ :: _ => some (.script (.runner path cause))
  | _ :: rest => abortedBy failedClone rest

/-- How a build with this history of its work ends: with the error of the step that aborted it, or
without one. -/
def outcome (settings : Settings) (push : Push) (project : ProjectRecord) (h : List Exchange) :
    Except BuildError Unit :=
  match Workspace.dir? settings.cacheRoot push.fullName with
  | none => .error (.invalidRepository push.fullName)
  | some _ =>
    match abortedBy none h with
    | some e => .error e
    | none =>
      if project.hasSshKey && push.repository.sshUrl.isNone then .error .missingSshUrl else .ok ()

variable {ε δ α β : Type}

/-- Steps are legible if the history of each of their runs tells whether and how they failed. -/
def Legible (context : ε → BuildError) (steps : Steps (Except ε α)) : Prop :=
  ∀ failedClone h result, Leads steps h (.done result) →
    match result with
    | .ok _ => ∃ later, ∀ rest, abortedBy failedClone (h ++ rest) = abortedBy later rest
    | .error e => ∀ rest, abortedBy failedClone (h ++ rest) = some (context e)

theorem legible_pure (context : ε → BuildError) (a : α) :
    Legible context (Procedure.done (.ok a)) := by
  intro failedClone h result hl
  obtain ⟨rfl, hr⟩ := hl.eq_of_done
  cases hr
  exact ⟨failedClone, fun _ => rfl⟩

/-- One call is legible if its failure is read and its success passed over. -/
theorem legible_of_call {context : ε → BuildError} {steps : Steps (Except ε α)}
    (call : Except ε α → Exchange)
    (only : ∀ h reply, Leads steps h (.done reply) → h = [call reply])
    (fails : ∀ failedClone e rest,
      abortedBy failedClone (call (.error e) :: rest) = some (context e))
    (passes : ∀ failedClone a rest,
      abortedBy failedClone (call (.ok a) :: rest) = abortedBy failedClone rest) :
    Legible context steps := by
  intro failedClone h result hl
  obtain rfl := only h result hl
  cases result with
  | error e => exact fun rest => fails failedClone e rest
  | ok a => exact ⟨failedClone, fun rest => passes failedClone a rest⟩

/-- Steps stay legible in a context. -/
theorem legible_check {outer : δ → BuildError} {context : ε → δ} {steps : Steps (Except ε α)}
    (hs : Legible (fun e => outer (context e)) steps) :
    Legible outer (check steps context).run := by
  intro failedClone h result hl
  obtain ⟨answer, h₁, h₂, rfl, ha, hd⟩ := (leads_andThen_iff _ _ _ _).mp hl
  obtain ⟨rfl, hr⟩ := hd.eq_of_done
  cases hr
  rw [List.append_nil]
  have told := hs failedClone h₁ answer ha
  cases answer with
  | error e => exact told
  | ok a => exact told

/-- Legible steps in a row are legible. -/
theorem legible_bind {context : ε → BuildError} {x : Attempt ε α} {f : α → Attempt ε β}
    (hx : Legible context x.run) (hf : ∀ a, Legible context (f a).run) :
    Legible context (x >>= f).run := by
  intro failedClone h result hl
  obtain ⟨answer, h₁, h₂, rfl, ha, hd⟩ := (leads_andThen_iff _ _ _ _).mp hl
  have first := hx failedClone h₁ answer ha
  cases answer with
  | error e =>
    obtain ⟨rfl, hr⟩ := hd.eq_of_done
    cases hr
    rw [List.append_nil]
    exact first
  | ok a =>
    obtain ⟨later, read⟩ := first
    have second := hf a later h₂ result hd
    cases result with
    | error e =>
      intro rest
      rw [List.append_assoc, read]
      exact second rest
    | ok b =>
      obtain ⟨last, read'⟩ := second
      exact ⟨last, fun rest => by rw [List.append_assoc, read, read']⟩

theorem legible_makeDirectories (path : String) :
    Legible (.workspace path) (request (.makeDirectories path)) :=
  legible_of_call (fun reply => ⟨.makeDirectories path, reply⟩)
    (fun _ _ => (leads_question_iff _ _ _).mp) (fun _ _ _ => rfl) (fun _ _ _ => rfl)

theorem legible_checkout (dest revision : String) :
    Legible (.checkout revision) (request (.checkout dest revision)) :=
  legible_of_call (fun reply => ⟨.checkout dest revision, reply⟩)
    (fun _ _ => (leads_question_iff _ _ _).mp) (fun _ _ _ => rfl) (fun _ _ _ => rfl)

theorem legible_readText (path : String) :
    Legible (.definition path) (request (.readText path)) :=
  legible_of_call (fun reply => ⟨.readText path, reply⟩)
    (fun _ _ => (leads_question_iff _ _ _).mp) (fun _ _ _ => rfl) (fun _ _ _ => rfl)

theorem legible_bindValue (name : String) (value : Json) :
    Legible (fun cause => .script (.bootstrap cause)) (request (.bind name value)) :=
  legible_of_call (fun reply => ⟨.bind name value, reply⟩)
    (fun _ _ => (leads_question_iff _ _ _).mp) (fun _ _ _ => rfl) (fun _ _ _ => rfl)

theorem legible_evaluate (source : String) :
    Legible (fun cause => .script (.malformedDefinition cause source))
      (request (.evaluate source)) :=
  legible_of_call (fun reply => ⟨.evaluate source, reply⟩)
    (fun _ _ => (leads_question_iff _ _ _).mp) (fun _ _ _ => rfl) (fun _ _ _ => rfl)

theorem legible_load (path : String) :
    Legible (fun cause => .script (.runner path cause)) (request (.load path)) :=
  legible_of_call (fun reply => ⟨.load path, reply⟩)
    (fun _ _ => (leads_question_iff _ _ _).mp) (fun _ _ _ => rfl) (fun _ _ _ => rfl)

/-- Opening a sandbox cannot fail. -/
theorem legible_openSandbox (context : ε → BuildError) (dest : String) :
    Legible context ((request (.openSandbox dest)).andThen fun done => .done (.ok done)) := by
  intro failedClone h result hl
  change Leads (.ask (.openSandbox dest) _) h _ at hl
  cases hl with
  | ask tail =>
    obtain ⟨rfl, hr⟩ := tail.eq_of_done
    cases hr
    exact ⟨failedClone, fun _ => rfl⟩

theorem legible_bindAll (bindings : List (String × Json)) :
    Legible BuildError.script (bindAll bindings).run := by
  induction bindings with
  | nil => exact legible_pure _ ()
  | cons binding rest ih =>
    apply legible_bind (legible_check (legible_bindValue _ _))
    intro bound
    exact ih

theorem legible_runScripts (context : ScriptContext) (definition runner : String) :
    Legible BuildError.script (runScripts context definition runner).run := by
  apply legible_bind (legible_bindAll _)
  intro bound
  apply legible_bind (legible_check (legible_evaluate _))
  intro evaluated
  exact legible_check (legible_load runner)

/-- A failed clone is not the end of a build, but together with a failed update it is. -/
theorem legible_cloneOrUpdate (url dest : String) (key : Option StagedKey) :
    Legible id (cloneOrUpdate url dest key).run := by
  intro failedClone h result hl
  change Leads (.ask (.clone url dest key) _) h _ at hl
  cases hl with
  | @ask _ _ cloned h _ tail =>
    cases cloned with
    | ok done =>
      obtain ⟨rfl, hr⟩ := tail.eq_of_done
      cases hr
      exact ⟨failedClone, fun _ => rfl⟩
    | error first =>
      change Leads (.ask (.update dest key) _) h _ at tail
      cases tail with
      | @ask _ _ updated h _ tail =>
        obtain ⟨rfl, hr⟩ := tail.eq_of_done
        cases updated with
        | ok done =>
          cases hr
          exact ⟨some (url, first), fun _ => rfl⟩
        | error second =>
          cases hr
          exact fun _ => rfl

theorem legible_fetchRevision (url dest revision : String) (key : Option StagedKey) :
    Legible id (fetchRevision url dest revision key).run :=
  legible_bind (legible_cloneOrUpdate _ _ _) fun _ => legible_check (legible_checkout _ _)

theorem legible_buildRevision (settings : Settings) (push : Push) (project : ProjectRecord)
    (key : Option StagedKey) (dest url : String) :
    Legible id (buildRevision settings push project key dest url).run := by
  apply legible_bind (legible_fetchRevision _ _ _ _)
  intro fetched
  have read (path : String) :
      Legible id (check (request (.readText path)) (BuildError.definition path)).run :=
    legible_check (legible_readText path)
  apply legible_bind (read _)
  intro definition
  apply legible_bind (legible_openSandbox id dest)
  intro opened
  exact legible_check (legible_runScripts _ _ _)

/-- An address is missing only for a project with a key. -/
theorem cloneAddress_eq (push : Push) (project : ProjectRecord) :
    (∃ url, cloneAddress push project = .ok url
      ∧ (project.hasSshKey && push.repository.sshUrl.isNone) = false)
    ∨ (cloneAddress push project = .error .missingSshUrl
      ∧ (project.hasSshKey && push.repository.sshUrl.isNone) = true) := by
  unfold cloneAddress
  cases hk : project.hasSshKey with
  | false => exact .inl ⟨_, rfl, rfl⟩
  | true =>
    cases hu : push.repository.sshUrl with
    | some url => exact .inl ⟨url, rfl, rfl⟩
    | none => exact .inr ⟨rfl, rfl⟩

/-- The work in a workspace ends as its history tells, also when the workspace has been left. -/
theorem inWorkspace_outcome (settings : Settings) (push : Push) (project : ProjectRecord)
    (key : Option StagedKey) (dest : String) {h : List Exchange}
    {result : Except BuildError Unit}
    (hl : Leads (inWorkspace settings push project key dest).run h (.done result)) :
    result = match abortedBy none (h ++ [⟨.leave dest, ()⟩]) with
      | some e => .error e
      | none =>
        if project.hasSshKey && push.repository.sshUrl.isNone then .error .missingSshUrl
        else .ok () := by
  have made : Legible id (check (request (.makeDirectories dest)) (.workspace dest)).run :=
    legible_check (legible_makeDirectories dest)
  rcases cloneAddress_eq push project with ⟨url, hu, hk⟩ | ⟨hu, hk⟩
  · have whole : Legible id (inWorkspace settings push project key dest).run := by
      apply legible_bind made
      intro done
      rw [hu]
      exact legible_buildRevision settings push project key dest url
    have told := whole none h result hl
    cases result with
    | error e => rw [told]; rfl
    | ok done =>
      obtain ⟨later, read⟩ := told
      rw [read, hk]
      rfl
  · rw [inWorkspace, hu] at hl
    obtain ⟨answer, h₁, h₂, rfl, ha, hd⟩ := (leads_andThen_iff _ _ _ _).mp hl
    have told := made none h₁ answer ha
    cases answer with
    | error e =>
      obtain ⟨rfl, hr⟩ := hd.eq_of_done
      cases hr
      rw [List.append_assoc, told]
      rfl
    | ok done =>
      obtain ⟨rfl, hr⟩ := hd.eq_of_done
      cases hr
      obtain ⟨later, read⟩ := told
      rw [List.append_assoc, read, hk]
      rfl

/-- A build ends as the history of its work tells. -/
theorem work_outcome (settings : Settings) (push : Push) (project : ProjectRecord)
    (key : Option StagedKey) {h : List Exchange} {result : Except BuildError Unit}
    (hl : Leads (work settings push project key) h (.done result)) :
    result = outcome settings push project h := by
  unfold work at hl
  unfold outcome
  cases hd : Workspace.dir? settings.cacheRoot push.fullName with
  | none =>
    rw [hd] at hl
    obtain ⟨rfl, hr⟩ := hl.eq_of_done
    cases hr
    rfl
  | some dest =>
    rw [hd] at hl
    change Leads (.ask (.enter dest) _) h _ at hl
    cases hl with
    | ask tail =>
      change Leads ((inWorkspace settings push project key dest).run.andThen _) _ _ at tail
      obtain ⟨answer, h₁, h₂, rfl, ha, hb⟩ := (leads_andThen_iff _ _ _ _).mp tail
      change Leads (.ask (.leave dest) _) h₂ _ at hb
      cases hb with
      | ask tail =>
        obtain ⟨rfl, hr⟩ := tail.eq_of_done
        cases hr
        exact inWorkspace_outcome settings push project key dest ha

end BuildHook.Build
