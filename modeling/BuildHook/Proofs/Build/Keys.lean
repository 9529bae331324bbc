import BuildHook.Proofs.Build.Word

/-!
# Keys of builds

A build has a key file from the moment in which its key is staged until it discards it, and all its
git calls that reach out of the working copy are made in between, with this file. A project without
a key has none, and its builds go on without.

## Main results

`run_keyed` says so of every build, whatever it is answered, and `Keyed.leads` of what is left of it
after some answers. `Spelled.missingSshUrl` says how a build ends that has a key but no address for
it.
-/

namespace BuildHook.Build

open Procedure

/-- The key file that a build has after an exchange, if it had `held` before. -/
def heldAfter (held : Option StagedKey) : Exchange → Option StagedKey
  | ⟨.stageKey _, .ok file⟩ => some file
  | ⟨.discardKey _, _⟩ => none
  | _ => held

/-- Whether a request between staging and discarding a key is one that the build of a push may make
with the key file that it was given. -/
def Request.Uses (push : Push) (project : ProjectRecord) (key : Option StagedKey) : Request → Prop
  | .stageKey _ => False
  | .discardKey _ => False
  | .clone url _ given => cloneAddress push project = .ok url ∧ given = key
  | .update _ given => (∃ url, cloneAddress push project = .ok url) ∧ given = key
  | .checkout .. => ∃ url, cloneAddress push project = .ok url
  | .bind name value => (name, value) ∈ (ScriptContext.ofPush push project.sshKey).bindings
  | _ => True

/-- Whether a build that has the key file `held`, or none, may make a request. -/
def Request.Handles (push : Push) (project : ProjectRecord) (held : Option StagedKey) :
    Request → Prop
  | .stageKey content => held = none ∧ project.usableKey.map keyFileContent = some content
  | .discardKey file => held = some file
  | r => held.isSome = project.hasSshKey ∧ r.Uses push project held

/-- Whether steps handle keys as the build of a push may, when it has the key file `held` before
them. -/
def Keyed {α : Type} (push : Push) (project : ProjectRecord) : Option StagedKey → Steps α → Prop
  | _, .done _ => True
  | held, .ask r next =>
    r.Handles push project held
      ∧ ∀ reply, Keyed push project (heldAfter held ⟨r, reply⟩) (next reply)

variable {push : Push} {project : ProjectRecord} {held key : Option StagedKey} {α β : Type}

theorem heldAfter_of_ne {x : Exchange} (other : x.question.kind ≠ .key) :
    heldAfter held x = held := by
  obtain ⟨r, reply⟩ := x
  cases r <;> first | rfl | exact absurd rfl other

theorem Request.Uses.kind_ne {r : Request} (uses : r.Uses push project key) : r.kind ≠ .key := by
  cases r <;> first | exact uses.elim | (intro same; cases same)

theorem Request.Uses.handles {r : Request} (uses : r.Uses push project key)
    (fits : key.isSome = project.hasSshKey) : r.Handles push project key := by
  cases r <;> first | exact uses.elim | exact ⟨fits, uses⟩

/-- While a key is neither staged nor discarded, a build keeps its key file. -/
theorem Keyed.andThen {p : Steps α} {f : α → Steps β} (hp : p.Asks (Request.Uses push project key))
    (fits : key.isSome = project.hasSshKey) (hf : ∀ a, Keyed push project key (f a)) :
    Keyed push project key (p.andThen f) := by
  induction p with
  | done a => exact hf a
  | ask r next ih =>
    refine ⟨hp.1.handles fits, fun reply => ?_⟩
    rw [heldAfter_of_ne hp.1.kind_ne]
    exact ih reply (hp.2 reply)

/-- What is left of a build after some exchanges handles keys as the whole does. -/
theorem Keyed.leads {p rest : Steps α} {h : List Exchange} (keyed : Keyed push project held p)
    (hl : Leads p h rest) : Keyed push project (h.foldl heldAfter held) rest := by
  induction hl generalizing held with
  | refl => exact keyed
  | ask tail ih => exact ih (keyed.2 _)

/-- Every request of a build is one that it may make with the key file that it has then. -/
theorem Keyed.forall_mem {p rest : Steps α} {h : List Exchange} (keyed : Keyed push project held p)
    (hl : Leads p h rest) : ∀ x ∈ h, ∃ held, x.question.Handles push project held := by
  induction hl generalizing held with
  | refl => exact fun x hx => absurd hx List.not_mem_nil
  | ask tail ih =>
    intro x hx
    rcases List.mem_cons.mp hx with rfl | hx
    · exact ⟨held, keyed.1⟩
    · exact ih (keyed.2 _) x hx

/-! ## What a build does with its key file -/

theorem bindAll_uses {bindings : List (String × Json)}
    (seen : ∀ binding ∈ bindings, binding ∈ (ScriptContext.ofPush push project.sshKey).bindings) :
    (bindAll bindings).run.Asks (Request.Uses push project key) := by
  induction bindings with
  | nil => trivial
  | cons binding rest ih =>
    obtain ⟨here, later⟩ := List.forall_mem_cons.mp seen
    exact asks_bind (asks_check (asks_request here)) fun _ => ih later

theorem runScripts_uses (definition runner : String) :
    (runScripts (.ofPush push project.sshKey) definition runner).run.Asks
      (Request.Uses push project key) := by
  apply asks_bind (bindAll_uses fun _ member => member)
  intro bound
  exact asks_bind (asks_check (asks_request trivial)) fun _ => asks_check (asks_request trivial)

theorem cloneOrUpdate_uses {url : String} (address : cloneAddress push project = .ok url)
    (dest : String) :
    (cloneOrUpdate url dest key).run.Asks (Request.Uses push project key) := by
  refine ⟨⟨address, rfl⟩, fun cloned => ?_⟩
  cases cloned with
  | ok done => trivial
  | error failedClone => exact asks_check (asks_request ⟨⟨url, address⟩, rfl⟩)

theorem buildRevision_uses (settings : Settings) {url : String}
    (address : cloneAddress push project = .ok url) (dest : String) :
    (buildRevision settings push project key dest url).run.Asks
      (Request.Uses push project key) := by
  apply asks_bind
  · exact asks_bind (cloneOrUpdate_uses address dest) fun _ =>
      asks_check (asks_request ⟨url, address⟩)
  · intro fetched
    apply asks_bind (asks_check (asks_request trivial))
    intro definition
    exact ⟨trivial, fun _ => asks_check (runScripts_uses _ _)⟩

theorem work_uses (settings : Settings) :
    (work settings push project key).Asks (Request.Uses push project key) := by
  unfold work
  cases Workspace.dir? settings.cacheRoot push.fullName with
  | none => trivial
  | some dest =>
    have inside : (inWorkspace settings push project key dest).run.Asks
        (Request.Uses push project key) := by
      apply asks_bind (asks_check (asks_request trivial))
      intro made
      cases address : cloneAddress push project with
      | ok url => exact buildRevision_uses settings address dest
      | error e => trivial
    exact ⟨trivial, fun _ => inside.andThen fun _ => ⟨trivial, fun _ => trivial⟩⟩

theorem reported_uses (settings : Settings) :
    (reported settings push project key).Asks (Request.Uses push project key) :=
  ⟨trivial, fun _ => (work_uses settings).andThen fun _ => ⟨trivial, fun _ => trivial⟩⟩

/-- Every build stages the key of its own project, if it has one, uses no other key file, and
discards this one when all is done. -/
theorem run_keyed (settings : Settings) (push : Push) (project : ProjectRecord) :
    Keyed push project none (run settings push project) := by
  unfold run
  cases hk : project.usableKey with
  | none =>
    have bare : Option.isSome (none : Option StagedKey) = project.hasSshKey := by
      rw [ProjectRecord.hasSshKey, hk]
      rfl
    dsimp only
    rw [← andThen_done (reported settings push project none)]
    exact Keyed.andThen (reported_uses settings) bare fun _ => trivial
  | some content =>
    refine ⟨⟨rfl, by rw [hk]; rfl⟩, fun staging => ?_⟩
    cases staging with
    | error cause => trivial
    | ok file =>
      have fits : (some file).isSome = project.hasSshKey := by
        rw [ProjectRecord.hasSshKey, hk]
        rfl
      have discards (state : BuildState) : Keyed push project (some file)
          (.ask (.discardKey file) fun _ => .done state) := ⟨rfl, fun _ => trivial⟩
      change Keyed push project (some file)
        ((reported settings push project (some file)).andThen _)
      exact Keyed.andThen (reported_uses settings) fits discards

/-- A build that has a key but no address for it ends when it needs the address, unless it has ended
before. -/
theorem Spelled.missingSshUrl {settings : Settings} {h : List Exchange}
    {result : Except BuildError Unit} (spelled : Spelled settings push project key h result)
    (has : project.hasSshKey = true) (unreachable : push.repository.sshUrl = none)
    (accepted : Workspace.accepts push.repository.fullName = true)
    (made : ∀ path cause, ⟨.makeDirectories path, .error cause⟩ ∉ h) :
    result = .error .missingSshUrl := by
  obtain ⟨answers, spelled, -⟩ := spelled
  unfold word at spelled
  simp only [accepted, has, unreachable, if_true, Option.isNone_none, Bool.and_self] at spelled
  cases hm : answers.made with
  | error cause =>
    rw [hm] at spelled
    have called : ⟨.makeDirectories (Path.join settings.cacheRoot push.repository.fullName),
        .error cause⟩ ∈ callsOf h := by
      rw [← (Prod.mk.inj spelled).1]
      exact List.mem_cons_self
    exact absurd (List.mem_filter.mp called).1 (made _ cause)
  | ok done =>
    rw [hm] at spelled
    exact (Prod.mk.inj spelled).2.symm

end BuildHook.Build
