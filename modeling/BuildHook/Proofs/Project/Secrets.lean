import BuildHook.Project.Resolver
import Mathlib.Data.List.Forall2

/-!
# Secrets of projects

Projects that are the same but for their secrets and the texts of their keys are found under the
same addresses.
-/

namespace BuildHook

/-- Two projects that are the same but for the texts of the secret and of the key. -/
structure ProjectRecord.SameButSecrets (project project' : ProjectRecord) : Prop where
  name : project.name = project'.name
  secret : project.secret = "" ↔ project'.secret = ""
  key : project.hasSshKey = project'.hasSshKey

/-- Two configurations that are the same but for the secrets and the keys of the projects. -/
structure Config.SameButSecrets (config config' : Config) : Prop where
  server : config.server = config'.server
  build : config.build = config'.build
  status : config.status = config'.status
  projects : List.Forall₂ (fun entry entry' => entry.projectNamespace = entry'.projectNamespace
    ∧ entry.record.SameButSecrets entry'.record) config.projects config'.projects

/-- Two answers of project stores that are the same but for the secrets and the keys of projects. -/
inductive SameFound : Except ResolveError ProjectRecord → Except ResolveError ProjectRecord → Prop
  | missing (cause cause' : ResolveError) : SameFound (.error cause) (.error cause')
  | known {project project' : ProjectRecord} (same : project.SameButSecrets project') :
      SameFound (.ok project) (.ok project')

namespace ProjectStore

/-- Two stores with the same projects, but for secrets and keys. -/
def Same (store store' : ProjectStore) : Prop :=
  List.Forall₂ (fun entry entry' => entry.1 = entry'.1 ∧ entry.2.SameButSecrets entry'.2)
    store.entries store'.entries

theorem Same.filter {store store' : ProjectStore} (same : store.Same store')
    (p : ProjectAddress → Bool) :
    Same ⟨store.entries.filter fun entry => p entry.1⟩
      ⟨store'.entries.filter fun entry => p entry.1⟩ :=
  List.rel_filter (fun _ _ both => iff_of_eq (congrArg (p · = true) both.1)) same

/-- The stores of two configurations answer the same, but for secrets and keys. -/
theorem resolve_same {config config' : Config} (configs : config.SameButSecrets config')
    (address : ProjectAddress) :
    SameFound ((ofProjects config.projects).resolve address)
      ((ofProjects config'.projects).resolve address) := by
  have stores : (ofProjects config.projects).Same (ofProjects config'.projects) := by
    apply List.rel_foldl (P := Same) _ .nil configs.projects
    rintro store store' same entry entry' ⟨spaces, records⟩
    have addresses : entry.address = entry'.address := by
      rw [ProjectEntry.address, ProjectEntry.address, spaces]
      exact congrArg (ProjectAddress.mk · _) (congrArg Project.key records.name)
    simp only [addresses]
    exact .cons ⟨rfl, records⟩ (same.filter (· != entry'.address))
  have found := stores.filter (· == address)
  unfold resolve get?
  rw [← List.head?_filter, ← List.head?_filter]
  revert found
  cases (ofProjects config.projects).entries.filter fun entry => entry.1 == address <;>
    cases (ofProjects config'.projects).entries.filter fun entry => entry.1 == address <;>
    intro found <;> cases found
  · exact .missing _ _
  · next both _ => exact .known both.2

end ProjectStore

end BuildHook
