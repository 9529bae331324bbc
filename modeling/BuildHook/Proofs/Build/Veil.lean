import BuildHook.Build.Run

/-!
# Builds under a veil

A veil hides something of the keys that builds handle. What a build does under it depends on nothing
but what it leaves to be seen of the key of the project: two builds of one push that are asked and
answered the same under the veil go on the same.

## Main results

`run_same` says so of every veil; `Veil.Same` is by recursion on the two builds at once.
-/

namespace BuildHook.Build

open Procedure

/-- What is left to be seen of a key: of the content of its file, of the key that is staged, and of
the values that a sandbox binds. -/
structure Veil where
  content : String → String
  staged : StagedKey → StagedKey
  value : String → Json → Json

/-- A request under a veil. -/
def Request.veiled (veil : Veil) : Request → Request
  | .stageKey content => .stageKey (veil.content content)
  | .discardKey key => .discardKey (veil.staged key)
  | .clone url dest key => .clone url dest (key.map veil.staged)
  | .update dest key => .update dest (key.map veil.staged)
  | .bind name value => .bind name (veil.value name value)
  | r => r

namespace Veil

/-- An answer under a veil. -/
def reply (veil : Veil) : (r : Request) → Reply r → Reply (r.veiled veil)
  | .stageKey _, reply => Except.map veil.staged reply
  | .discardKey _, reply => reply
  | .publish _, reply => reply
  | .enter _, reply => reply
  | .leave _, reply => reply
  | .makeDirectories _, reply => reply
  | .clone .., reply => reply
  | .update .., reply => reply
  | .checkout .., reply => reply
  | .readText _, reply => reply
  | .openSandbox _, reply => reply
  | .bind .., reply => reply
  | .evaluate _, reply => reply
  | .load _, reply => reply

/-- An exchange under a veil. -/
def exchange (veil : Veil) (x : Exchange) : Exchange :=
  ⟨x.question.veiled veil, veil.reply x.question x.answer⟩

/-- Two procedures that do the same under a veil, as long as they are answered the same under it. -/
inductive Same (veil : Veil) {α : Type} : Steps α → Steps α → Prop
  | done (a) : Same veil (.done a) (.done a)
  | ask {r r' next next'} (same : r.veiled veil = r'.veiled veil)
      (tail : ∀ reply reply', veil.exchange ⟨r, reply⟩ = veil.exchange ⟨r', reply'⟩ →
        Same veil (next reply) (next' reply')) :
      Same veil (.ask r next) (.ask r' next')

/-- Two projects that are the same under a veil: neither has a key or the files of both keys are the
same, and so are the keys as scripts see them. -/
structure SameKeys (veil : Veil) (project project' : ProjectRecord) : Prop where
  file : (project.usableKey.map fun key => veil.content (keyFileContent key))
    = project'.usableKey.map fun key => veil.content (keyFileContent key)
  bound : veil.value "sshKey" (.string (flattenKey (project.sshKey.getD "")))
    = veil.value "sshKey" (.string (flattenKey (project'.sshKey.getD "")))

end Veil

@[simp] theorem kind_veiled (veil : Veil) (r : Request) : (r.veiled veil).kind = r.kind := by
  cases r <;> rfl

variable {veil : Veil} {ε δ α β : Type}

/-- Only a staged key is hidden in an answer. -/
theorem eq_of_exchange_eq {r : Request} (other : r.kind ≠ .key) {reply reply' : Reply r}
    (same : veil.exchange ⟨r, reply⟩ = veil.exchange ⟨r, reply'⟩) : reply = reply' := by
  have answers := eq_of_heq (Exchange.mk.inj same).2
  cases r <;> first | exact answers | exact absurd rfl other

namespace Veil

/-- Work is the same as itself. -/
theorem same_request {r : Request} (work : r.kind = .work) :
    veil.Same (request r) (request r) := by
  refine .ask rfl fun reply reply' answers => ?_
  rw [eq_of_exchange_eq (by rw [work]; decide) answers]
  exact .done _

theorem Same.andThen {p p' : Steps α} {f f' : α → Steps β} (hp : veil.Same p p')
    (hf : ∀ a, veil.Same (f a) (f' a)) : veil.Same (p.andThen f) (p'.andThen f') := by
  induction hp with
  | done a => exact hf a
  | ask same tail ih => exact .ask same ih

theorem same_check {steps steps' : Steps (Except δ α)} (same : veil.Same steps steps')
    (context : δ → ε) : veil.Same (check steps context).run (check steps' context).run :=
  same.andThen fun _ => .done _

theorem same_bind {x x' : Attempt ε α} {f f' : α → Attempt ε β} (hx : veil.Same x.run x'.run)
    (hf : ∀ a, veil.Same (f a).run (f' a).run) :
    veil.Same (x >>= f).run (x' >>= f').run := by
  apply hx.andThen
  intro answer
  cases answer with
  | ok a => exact hf a
  | error e => exact .done _

end Veil

/-- Of an answer to a clone nothing is hidden. -/
theorem clone_same (url dest : String) {key key' : Option StagedKey}
    (same : key.map veil.staged = key'.map veil.staged) :
    veil.Same (request (.clone url dest key)) (request (.clone url dest key')) := by
  refine .ask (by rw [Request.veiled, Request.veiled, same]) fun reply reply' answers => ?_
  obtain rfl : reply = reply' := eq_of_heq (Exchange.mk.inj answers).2
  exact .done _

/-- Of an answer to an update nothing is hidden. -/
theorem update_same (dest : String) {key key' : Option StagedKey}
    (same : key.map veil.staged = key'.map veil.staged) :
    veil.Same (request (.update dest key)) (request (.update dest key')) := by
  refine .ask (by rw [Request.veiled, Request.veiled, same]) fun reply reply' answers => ?_
  obtain rfl : reply = reply' := eq_of_heq (Exchange.mk.inj answers).2
  exact .done _

/-- Of an answer to a binding nothing is hidden. -/
theorem bind_same {name : String} {value value' : Json}
    (same : veil.value name value = veil.value name value') :
    veil.Same (request (.bind name value)) (request (.bind name value')) := by
  refine .ask (by rw [Request.veiled, Request.veiled, same]) fun reply reply' answers => ?_
  obtain rfl : reply = reply' := eq_of_heq (Exchange.mk.inj answers).2
  exact .done _

/-- Values that are the same under a veil are bound the same. -/
theorem bindAll_same {bindings bindings' : List (String × Json)}
    (same : (bindings.map fun binding => (binding.1, veil.value binding.1 binding.2))
      = bindings'.map fun binding => (binding.1, veil.value binding.1 binding.2)) :
    veil.Same (bindAll bindings).run (bindAll bindings').run := by
  induction bindings generalizing bindings' with
  | nil =>
    obtain rfl := List.map_eq_nil_iff.mp same.symm
    exact .done _
  | cons binding rest ih =>
    obtain ⟨⟨name, value⟩, rest', rfl, first, others⟩ := List.map_eq_cons_iff.mp same.symm
    obtain ⟨rfl, values⟩ := Prod.mk.inj first
    exact Veil.same_bind (Veil.same_check (bind_same values.symm) _) fun _ => ih others.symm

section Parts

variable {project project' : ProjectRecord} {key key' : Option StagedKey}

theorem cloneOrUpdate_same (url dest : String)
    (staged : key.map veil.staged = key'.map veil.staged) :
    veil.Same (cloneOrUpdate url dest key).run (cloneOrUpdate url dest key').run := by
  apply (clone_same url dest staged).andThen
  intro cloned
  cases cloned with
  | ok done => exact .done _
  | error failedClone => exact Veil.same_check (update_same dest staged) _

/-- Both projects are cloned from the same address. -/
theorem cloneAddress_same (same : veil.SameKeys project project') (push : Push) :
    cloneAddress push project = cloneAddress push project' := by
  have keys : project.hasSshKey = project'.hasSshKey := by
    simpa [ProjectRecord.hasSshKey] using congrArg Option.isSome same.file
  rw [cloneAddress, cloneAddress, keys]

variable (settings : Settings) (push : Push) (same : veil.SameKeys project project')
  (staged : key.map veil.staged = key'.map veil.staged)

include same

theorem runScripts_same (definition runner : String) :
    veil.Same (runScripts (.ofPush push project.sshKey) definition runner).run
      (runScripts (.ofPush push project'.sshKey) definition runner).run := by
  apply Veil.same_bind
  · apply bindAll_same
    simp [ScriptContext.bindings, ScriptContext.ofPush, same.bound]
  · intro bound
    exact Veil.same_bind (Veil.same_check (Veil.same_request rfl) _) fun _ =>
      Veil.same_check (Veil.same_request rfl) _

include staged

theorem buildRevision_same (dest url : String) :
    veil.Same (buildRevision settings push project key dest url).run
      (buildRevision settings push project' key' dest url).run := by
  apply Veil.same_bind
  · exact Veil.same_bind (cloneOrUpdate_same url dest staged) fun _ =>
      Veil.same_check (Veil.same_request rfl) _
  · intro fetched
    apply Veil.same_bind (Veil.same_check (Veil.same_request rfl) _)
    intro definition
    exact .ask rfl fun _ _ _ => Veil.same_check (runScripts_same push same _ _) _

theorem work_same :
    veil.Same (work settings push project key) (work settings push project' key') := by
  unfold work
  cases Workspace.dir? settings.cacheRoot push.fullName with
  | none => exact .done _
  | some dest =>
    refine .ask rfl fun _ _ _ => ?_
    have inside : veil.Same (inWorkspace settings push project key dest).run
        (inWorkspace settings push project' key' dest).run := by
      apply Veil.same_bind (Veil.same_check (Veil.same_request rfl) _)
      intro made
      rw [cloneAddress_same same]
      cases cloneAddress push project' with
      | ok url => exact buildRevision_same settings push same staged dest url
      | error e => exact .done _
    exact inside.andThen fun result => .ask rfl fun _ _ _ => .done result

theorem reported_same :
    veil.Same (reported settings push project key) (reported settings push project' key') :=
  .ask rfl fun _ _ _ => (work_same settings push same staged).andThen fun _ =>
    .ask rfl fun _ _ _ => .done _

end Parts

/-- The builds of two projects that are the same under a veil are the same under it. -/
theorem run_same (settings : Settings) (push : Push) {project project' : ProjectRecord}
    (same : veil.SameKeys project project') :
    veil.Same (run settings push project) (run settings push project') := by
  have files := same.file
  unfold run
  cases hk : project.usableKey with
  | none =>
    rw [hk, Option.map_none] at files
    rw [Option.map_eq_none_iff.mp files.symm]
    exact reported_same settings push same rfl
  | some key =>
    rw [hk, Option.map_some] at files
    obtain ⟨key', hk', contents⟩ := Option.map_eq_some_iff.mp files.symm
    rw [hk']
    refine .ask (congrArg Request.stageKey contents.symm) fun staging staging' answers => ?_
    -- The staged keys may differ behind the veil, but either both are staged or none is.
    have stagings : Except.map veil.staged staging = Except.map veil.staged staging' :=
      eq_of_heq (Exchange.mk.inj answers).2
    cases staging with
    | error cause =>
      cases staging' with
      | error cause' => exact .done _
      | ok staged' => cases stagings
    | ok staged =>
      cases staging' with
      | error cause' => cases stagings
      | ok staged' =>
        have key_same : veil.staged staged = veil.staged staged' := Except.ok.inj stagings
        have keys_same : (some staged).map veil.staged = (some staged').map veil.staged :=
          congrArg some key_same
        exact (reported_same settings push same keys_same).andThen fun state =>
          .ask (congrArg Request.discardKey key_same) fun _ _ _ => .done state

end BuildHook.Build
