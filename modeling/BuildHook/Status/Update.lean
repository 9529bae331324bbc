import BuildHook.Status.Error
import BuildHook.Status.State

/-!
# Status updates
-/

namespace BuildHook

/-- What is reported about a revision. -/
structure StatusUpdate where
  repository : String
  revision : String
  state : BuildState
  message : String
  context : String
  targetUrl : String
  deriving DecidableEq

end BuildHook
