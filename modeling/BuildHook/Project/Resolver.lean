import BuildHook.Config.Basic
import BuildHook.Project.Key

/-!
# Project lookup

Projects are looked up by project key and namespace. Of several projects under one key in one
namespace the last one counts.
-/

namespace BuildHook

/-- Why a project was not found. -/
inductive ResolveError where
  | notFound (key projectNamespace : String)
  | unavailable (cause : String)

/-- The message of an error. -/
def ResolveError.message : ResolveError → String
  | .notFound key projectNamespace =>
      "no project " ++ Text.quoted key ++ " in namespace " ++ Text.quoted projectNamespace
  | .unavailable cause => "project store unavailable: " ++ cause

/-- What a project is looked up by. -/
structure ProjectAddress where
  key : String
  projectNamespace : String
  deriving DecidableEq

/-- Where a configured project is found. -/
def ProjectEntry.address (project : ProjectEntry) : ProjectAddress :=
  ⟨Project.key project.name, project.projectNamespace⟩

/-- The projects of a configuration, each address once. -/
structure ProjectStore where
  entries : List (ProjectAddress × ProjectRecord)

namespace ProjectStore

/-- The store without projects. -/
def empty : ProjectStore := ⟨[]⟩

/-- Puts a record under an address, in place of an earlier one. -/
def insert (store : ProjectStore) (address : ProjectAddress) (record : ProjectRecord) :
    ProjectStore :=
  ⟨(address, record) :: store.entries.filter fun entry => entry.1 != address⟩

/-- The store of configured projects. -/
def ofProjects (projects : List ProjectEntry) : ProjectStore :=
  projects.foldl (fun store project => store.insert project.address project.record) empty

/-- The number of addresses. -/
def size (store : ProjectStore) : Nat := store.entries.length

/-- Whether there is no project. -/
def isEmpty (store : ProjectStore) : Bool := store.entries.isEmpty

/-- The record under an address. -/
def get? (store : ProjectStore) (address : ProjectAddress) : Option ProjectRecord :=
  (store.entries.find? fun entry => entry.1 == address).map (·.2)

/-- Looks a project up. -/
def resolve (store : ProjectStore) (address : ProjectAddress) :
    Except ResolveError ProjectRecord :=
  match store.get? address with
  | some record => .ok record
  | none => .error (.notFound address.key address.projectNamespace)

end ProjectStore

end BuildHook
