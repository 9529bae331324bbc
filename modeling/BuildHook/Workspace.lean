import BuildHook.Path

/-!
# Workspaces

Every repository has a directory below the cache root, named by its full name. A name is accepted
only if it is not empty and consists of ordinary names alone, so that it cannot lead elsewhere.
-/

namespace BuildHook.Workspace

/-- Whether a repository name may name a directory. -/
def accepts (fullName : String) : Bool :=
  fullName != "" && (Path.components fullName).all Path.Component.isNormal

/-- The directory of a repository. -/
def dir? (cacheRoot fullName : String) : Option String :=
  if accepts fullName then some (Path.join cacheRoot fullName) else none

end BuildHook.Workspace
