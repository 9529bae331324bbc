import BuildHook.Git.Error
import BuildHook.Process.Outcome

/-!
# Git calls

The three things that a build asks of git, with the arguments and the environment of the process
that does each of them. A staged key is handed over only to the calls that talk to the remote side.
-/

namespace BuildHook

/-- A key that was written to a private file. -/
structure StagedKey where
  path : String
  content : String
  deriving DecidableEq

/-- The command by which git reaches the remote side with a key file. -/
def sshCommand (keyPath : String) : String :=
  "ssh -i '" ++ keyPath ++ "' -o IdentitiesOnly=yes -o StrictHostKeyChecking=accept-new"

/-- Something to be done in a working copy. -/
inductive GitCall where
  | clone (url : String) (keyPath : Option String)
  | update (keyPath : Option String)
  | checkout (revision : String)
  deriving DecidableEq

namespace GitCall

/-- The name of a call in messages. -/
def operation : GitCall → String
  | .clone .. => "clone"
  | .update _ => "fetch"
  | .checkout _ => "checkout"

/-- The arguments of the process. -/
def arguments : GitCall → List String
  | .clone url _ => ["clone", "--quiet", "--", url, "."]
  | .update _ => ["fetch", "--quiet", "--prune", "origin"]
  | .checkout revision =>
      ["-c", "advice.detachedHead=false", "checkout", "--force", "--quiet", revision, "--"]

/-- The key file that the process may use. -/
def keyPath? : GitCall → Option String
  | .clone _ keyPath => keyPath
  | .update keyPath => keyPath
  | .checkout _ => none

/-- What the started process came to. -/
def result (call : GitCall) : Except IoError Process.Outcome → Except GitError Unit
  | .error cause => .error (.spawn call.operation cause)
  | .ok outcome =>
      if outcome.succeeded then .ok ()
      else .error (.failed call.operation outcome.code outcome.text)

end GitCall

end BuildHook
