import BuildHook.Build.Run

/-!
# What builds ask for

Which kinds of requests the parts of a build make, and on which working copy they work, whatever the
answers are.
-/

namespace BuildHook.Build

open Procedure

variable {ε δ α β : Type} {kind : Request → Prop}

theorem asks_request {r : Request} (hr : kind r) : (request r).Asks kind :=
  ⟨hr, fun _ => trivial⟩

theorem asks_check {steps : Steps (Except δ α)} {context : δ → ε} (hs : steps.Asks kind) :
    (check steps context).run.Asks kind :=
  hs.andThen fun _ => trivial

theorem asks_bind {x : Attempt ε α} {f : α → Attempt ε β} (hx : x.run.Asks kind)
    (hf : ∀ a, (f a).run.Asks kind) : (x >>= f).run.Asks kind := by
  apply hx.andThen
  intro answer
  cases answer with
  | ok a => exact hf a
  | error e => trivial

/-- Whether a request is work on a working copy, or on the sandbox that was opened for it. -/
def Request.IsIn (dest : String) : Request → Prop
  | .makeDirectories path => path = dest
  | .clone _ place _ => place = dest
  | .update place _ => place = dest
  | .checkout place _ => place = dest
  | .readText path => path = Path.join dest definitionFile
  | .openSandbox place => place = dest
  | .bind .. => True
  | .evaluate _ => True
  | .load _ => True
  | _ => False

theorem Request.IsIn.kind_eq {dest : String} {r : Request} (inside : r.IsIn dest) :
    r.kind = .work := by
  cases r <;> first | rfl | exact inside.elim

variable {dest : String}

theorem bindAll_asks (bindings : List (String × Json)) :
    (bindAll bindings).run.Asks (Request.IsIn dest) := by
  induction bindings with
  | nil => trivial
  | cons binding rest ih => exact asks_bind (asks_check (asks_request trivial)) fun _ => ih

theorem runScripts_asks (context : ScriptContext) (definition runner : String) :
    (runScripts context definition runner).run.Asks (Request.IsIn dest) := by
  apply asks_bind (bindAll_asks _)
  intro bound
  refine asks_bind (asks_check (asks_request trivial)) ?_
  intro checked
  exact asks_check (asks_request trivial)

theorem cloneOrUpdate_asks (url dest : String) (key : Option StagedKey) :
    (cloneOrUpdate url dest key).run.Asks (Request.IsIn dest) := by
  constructor
  · rfl
  intro cloned
  cases cloned with
  | ok done => trivial
  | error first => exact asks_check (asks_request rfl)

theorem fetchRevision_asks (url dest revision : String) (key : Option StagedKey) :
    (fetchRevision url dest revision key).run.Asks (Request.IsIn dest) :=
  asks_bind (cloneOrUpdate_asks _ _ _) fun _ => asks_check (asks_request rfl)

theorem buildRevision_asks (settings : Settings) (push : Push) (project : ProjectRecord)
    (key : Option StagedKey) (dest url : String) :
    (buildRevision settings push project key dest url).run.Asks (Request.IsIn dest) := by
  apply asks_bind (fetchRevision_asks _ _ _ _)
  intro fetched
  refine asks_bind (asks_check (asks_request rfl)) ?_
  intro definition
  exact ⟨rfl, fun _ => asks_check (runScripts_asks _ _ _)⟩

/-- In its workspace a build does nothing but work there. -/
theorem inWorkspace_asks (settings : Settings) (push : Push) (project : ProjectRecord)
    (key : Option StagedKey) (dest : String) :
    (inWorkspace settings push project key dest).run.Asks (Request.IsIn dest) := by
  refine asks_bind (asks_check (asks_request rfl)) ?_
  intro made
  cases cloneAddress push project with
  | ok url => exact buildRevision_asks _ _ _ _ _ _
  | error e => trivial

/-- Between its reports a build works, and locks its workspace for it. -/
theorem work_asks (settings : Settings) (push : Push) (project : ProjectRecord)
    (key : Option StagedKey) :
    (work settings push project key).Asks fun r => r.kind = .lock ∨ r.kind = .work := by
  unfold work
  cases Workspace.dir? settings.cacheRoot push.fullName with
  | none => trivial
  | some dest =>
    have inside : (inWorkspace settings push project key dest).run.Asks
        fun r => r.kind = .lock ∨ r.kind = .work :=
      (inWorkspace_asks settings push project key dest).mono fun _ inside => .inr inside.kind_eq
    constructor
    · exact .inl rfl
    intro entered
    apply inside.andThen
    intro result
    exact ⟨.inl rfl, fun _ => trivial⟩

end BuildHook.Build
