import BuildHook.Project.Resolver
import BuildHook.Proofs.List.Last
import Mathlib.Data.Finset.Card

/-!
# Looking projects up

A store is filled with the projects of a configuration one after the other, each in place of an
earlier one under the same key in the same namespace. It holds exactly what the list of projects
says: under each address the last project, and no address twice.

## Main results

`Holds.insert` and `holds_ofProjects` say what a store holds after one more project and after a
whole list; `resolve_ofProjects` is what a lookup finds.
-/

namespace BuildHook.ProjectStore

/-- Whether a project has a key in a namespace. -/
def IsUnder (key projectNamespace : String) (project : ProjectEntry) : Prop :=
  Project.key project.name = key ∧ project.projectNamespace = projectNamespace

/-- The addresses of a store. -/
def addresses (store : ProjectStore) : List ProjectAddress := store.entries.map Prod.fst

/-- The last of some projects that is found under an address. -/
def lastAt? (projects : List ProjectEntry) (address : ProjectAddress) : Option ProjectEntry :=
  (projects.filter fun project => project.address = address).getLast?

/-- Whether a store holds the last of some projects under each address, and each address once. -/
structure Holds (store : ProjectStore) (projects : List ProjectEntry) : Prop where
  distinct : store.addresses.Nodup
  complete : ∀ address, address ∈ store.addresses ↔ address ∈ projects.map ProjectEntry.address
  found : ∀ address, store.get? address = (lastAt? projects address).map ProjectEntry.record

/-! ## The last project under an address -/

theorem address_eq_iff (project : ProjectEntry) (key projectNamespace : String) :
    project.address = ⟨key, projectNamespace⟩ ↔ IsUnder key projectNamespace project := by
  rw [ProjectEntry.address, ProjectAddress.mk.injEq]
  rfl

theorem lastAt?_append (projects more : List ProjectEntry) (address : ProjectAddress) :
    lastAt? (projects ++ more) address
      = (lastAt? more address).or (lastAt? projects address) := by
  rw [lastAt?, List.filter_append, List.getLast?_append]
  rfl

theorem lastAt?_eq_none_iff (projects : List ProjectEntry) (address : ProjectAddress) :
    lastAt? projects address = none ↔ ∀ project ∈ projects, project.address ≠ address := by
  simp [lastAt?]

theorem lastAt?_eq_some_iff (projects : List ProjectEntry) (address : ProjectAddress)
    (project : ProjectEntry) :
    lastAt? projects address = some project ↔
      ∃ before after, projects = before ++ project :: after ∧ project.address = address
        ∧ ∀ later ∈ after, later.address ≠ address := by
  rw [lastAt?, getLast?_filter_eq_some_iff]
  simp only [IsLast, decide_eq_true_eq]

/-- Only the projects of a namespace are found in it. -/
theorem lastAt?_filter (projects : List ProjectEntry) (address : ProjectAddress) :
    lastAt? (projects.filter fun project => project.projectNamespace = address.projectNamespace)
      address = lastAt? projects address := by
  rw [lastAt?, List.filter_filter, lastAt?]
  congr 2
  funext project
  by_cases here : project.address = address
  · rw [← here]
    simp [ProjectEntry.address]
  · simp [here]

/-! ## One more project -/

theorem get?_insert_self (store : ProjectStore) (address : ProjectAddress)
    (record : ProjectRecord) : (store.insert address record).get? address = some record := by
  simp [get?, insert]

theorem get?_insert_of_ne (store : ProjectStore) {address other : ProjectAddress}
    (record : ProjectRecord) (apart : other ≠ address) :
    (store.insert address record).get? other = store.get? other := by
  rw [get?, get?, insert, List.find?_cons_of_neg (by simpa using apart.symm), List.find?_filter]
  congr 2
  funext entry
  by_cases here : entry.1 = other
  · simp [here, apart]
  · simp [here]

theorem mem_addresses_insert (store : ProjectStore) (address other : ProjectAddress)
    (record : ProjectRecord) :
    other ∈ (store.insert address record).addresses
      ↔ other = address ∨ other ∈ store.addresses := by
  by_cases same : other = address <;> simp [addresses, insert, same]

/-- An address whose earlier record is taken out is still there once. -/
theorem nodup_addresses_insert {store : ProjectStore} (distinct : store.addresses.Nodup)
    (address : ProjectAddress) (record : ProjectRecord) :
    (store.insert address record).addresses.Nodup := by
  rw [addresses, insert, List.map_cons, List.nodup_cons]
  constructor
  · simp
  · exact distinct.sublist (List.filter_sublist.map Prod.fst)

theorem Holds.insert {store : ProjectStore} {projects : List ProjectEntry}
    (holds : store.Holds projects) (project : ProjectEntry) :
    (store.insert project.address project.record).Holds (projects ++ [project]) where
  distinct := nodup_addresses_insert holds.distinct _ _
  complete address := by
    rw [mem_addresses_insert, holds.complete, List.map_append, List.mem_append, or_comm,
      List.map_singleton, List.mem_singleton]
  found address := by
    rw [lastAt?_append]
    by_cases here : address = project.address
    · rw [here, get?_insert_self]
      simp [lastAt?]
    · rw [get?_insert_of_ne store project.record here, holds.found]
      simp [lastAt?, Ne.symm here]

/-! ## All projects of a configuration -/

theorem holds_empty : empty.Holds [] where
  distinct := List.nodup_nil
  complete _ := Iff.rfl
  found _ := rfl

theorem Holds.insertAll {store : ProjectStore} {projects : List ProjectEntry}
    (holds : store.Holds projects) (more : List ProjectEntry) :
    (more.foldl (fun store project => store.insert project.address project.record) store).Holds
      (projects ++ more) := by
  induction more generalizing store projects with
  | nil => rwa [List.append_nil]
  | cons project rest ih =>
    rw [← List.singleton_append, ← List.append_assoc]
    exact ih (holds.insert project)

/-- A store of configured projects holds them. -/
theorem holds_ofProjects (projects : List ProjectEntry) : (ofProjects projects).Holds projects :=
  holds_empty.insertAll projects

namespace Holds

variable {store : ProjectStore} {projects : List ProjectEntry}

theorem size_eq (holds : store.Holds projects) :
    store.size = (projects.map ProjectEntry.address).toFinset.card := by
  have same : store.addresses.toFinset = (projects.map ProjectEntry.address).toFinset := by
    ext address
    rw [List.mem_toFinset, List.mem_toFinset, holds.complete]
  calc
    store.size = store.addresses.length := (List.length_map ..).symm
    _ = store.addresses.toFinset.card := (List.toFinset_card_of_nodup holds.distinct).symm
    _ = (projects.map ProjectEntry.address).toFinset.card := by rw [same]

theorem isEmpty_iff (holds : store.Holds projects) : store.isEmpty = true ↔ projects = [] := by
  have none_left : store.addresses = [] ↔ projects.map ProjectEntry.address = [] := by
    rw [List.eq_nil_iff_forall_not_mem, List.eq_nil_iff_forall_not_mem]
    exact forall_congr' fun address => not_congr (holds.complete address)
  rw [isEmpty, List.isEmpty_iff, ← List.map_eq_nil_iff (f := Prod.fst)]
  exact none_left.trans List.map_eq_nil_iff

theorem resolve_eq (holds : store.Holds projects) (address : ProjectAddress) :
    store.resolve address = match lastAt? projects address with
      | some project => .ok project.record
      | none => .error (.notFound address.key address.projectNamespace) := by
  rw [resolve, holds.found]
  cases lastAt? projects address <;> rfl

/-- What is found is the last project under the address. -/
theorem resolve_eq_ok_iff (holds : store.Holds projects) (address : ProjectAddress)
    (record : ProjectRecord) :
    store.resolve address = .ok record ↔
      ∃ before project after, projects = before ++ project :: after ∧ project.address = address
        ∧ (∀ later ∈ after, later.address ≠ address) ∧ record = project.record := by
  have last : store.resolve address = .ok record
      ↔ ∃ project, lastAt? projects address = some project ∧ record = project.record := by
    rw [holds.resolve_eq]
    cases lastAt? projects address <;> simp [eq_comm]
  rw [last]
  constructor
  · rintro ⟨project, at_last, same⟩
    obtain ⟨before, after, split, here, others⟩ := (lastAt?_eq_some_iff ..).mp at_last
    exact ⟨before, project, after, split, here, others, same⟩
  · rintro ⟨before, project, after, split, here, others, same⟩
    exact ⟨project, (lastAt?_eq_some_iff ..).mpr ⟨before, after, split, here, others⟩, same⟩

theorem resolve_eq_error_iff (holds : store.Holds projects) (address : ProjectAddress)
    (cause : ResolveError) :
    store.resolve address = .error cause ↔
      cause = .notFound address.key address.projectNamespace
        ∧ ∀ project ∈ projects, project.address ≠ address := by
  rw [holds.resolve_eq, ← lastAt?_eq_none_iff]
  cases lastAt? projects address <;> simp [eq_comm]

end Holds

/-- Behind other projects, some projects are looked up first and the others after them. -/
theorem resolve_append (others projects : List ProjectEntry) (address : ProjectAddress) :
    (ofProjects (others ++ projects)).resolve address
      = ((ofProjects projects).resolve address <|> (ofProjects others).resolve address) := by
  rw [(holds_ofProjects (others ++ projects)).resolve_eq, lastAt?_append,
    (holds_ofProjects projects).resolve_eq]
  cases lastAt? projects address with
  | none => exact ((holds_ofProjects others).resolve_eq address).symm
  | some project => rfl

/-- A lookup finds the last project under its key in its namespace, with its name, secret and key,
and fails exactly if there is none, telling this key and this namespace. The size of a store counts
the different pairs of key and namespace, and it is empty only for no projects. Behind other
projects, some projects are looked up first and the others after them; the projects of other
namespaces are never looked at. -/
theorem resolve_ofProjects (projects others : List ProjectEntry) (key projectNamespace : String) :
    let store := ofProjects projects
    let address : ProjectAddress := ⟨key, projectNamespace⟩
    (∀ record, store.resolve address = .ok record ↔
      ∃ before project after, projects = before ++ project :: after
        ∧ IsUnder key projectNamespace project
        ∧ (∀ later ∈ after, ¬ IsUnder key projectNamespace later)
        ∧ record = ⟨project.name, project.secret, project.sshKey⟩)
    ∧ (∀ cause, store.resolve address = .error cause ↔
      cause = .notFound key projectNamespace
        ∧ ∀ project ∈ projects, ¬ IsUnder key projectNamespace project)
    ∧ store.size = (projects.map ProjectEntry.address).toFinset.card
    ∧ (store.isEmpty = true ↔ projects = [])
    ∧ (ofProjects (others ++ projects)).resolve address
      = (store.resolve address <|> (ofProjects others).resolve address)
    ∧ (ofProjects (projects.filter fun project =>
        project.projectNamespace = projectNamespace)).resolve address = store.resolve address := by
  intro store address
  have holds := holds_ofProjects projects
  simp only [← address_eq_iff]
  refine ⟨holds.resolve_eq_ok_iff address, holds.resolve_eq_error_iff address, holds.size_eq,
    holds.isEmpty_iff, resolve_append others projects address, ?_⟩
  rw [(holds_ofProjects _).resolve_eq, holds.resolve_eq, lastAt?_filter projects address]

end BuildHook.ProjectStore
