import BuildHook.Git.Error
import BuildHook.Script.Error

/-!
# Failed builds

The step that ended a build, with its cause.
-/

namespace BuildHook

/-- Why a build failed. -/
inductive BuildError where
  | credentials (cause : IoError)
  | invalidRepository (name : String)
  | workspace (path : String) (cause : IoError)
  | missingSshUrl
  | clone (url : String) (failedClone failedUpdate : GitError)
  | checkout (revision : String) (cause : GitError)
  | definition (path : String) (cause : IoError)
  | script (cause : ScriptError)

namespace BuildError

/-- The message of an error. -/
def message : BuildError → String
  | .credentials cause => "error writing ssh key cache: " ++ cause.message
  | .invalidRepository name => "invalid repository name " ++ Text.quoted name
  | .workspace path cause => "failed to create workspace " ++ path ++ ": " ++ cause.message
  | .missingSshUrl => "project has an SSH key but the push carries no SSH URL"
  | .clone url failedClone failedUpdate =>
      "could neither clone nor update " ++ url ++ ". Clone: " ++ failedClone.message
        ++ " Update: " ++ failedUpdate.message
  | .checkout revision cause => "failed to check out " ++ revision ++ ": " ++ cause.message
  | .definition path cause => "failed to read " ++ path ++ ": " ++ cause.message
  | .script cause => cause.message

end BuildError

end BuildHook
