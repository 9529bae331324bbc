import BuildHook.Io.Error
import BuildHook.Process.Failure

/-!
# Failed git calls
-/

namespace BuildHook

/-- Why a git call failed: the program could not be started, or it reported a failure. -/
inductive GitError where
  | spawn (operation : String) (cause : IoError)
  | failed (operation : String) (code : Process.ExitCode) (output : String)
  deriving DecidableEq

namespace GitError

/-- The message of an error. -/
def message : GitError → String
  | .spawn operation cause =>
      "git " ++ operation ++ " could not be started: " ++ cause.message
  | .failed operation code output => Process.failureText ("git " ++ operation) code output

/-- What the failed process wrote, unless it wrote nothing. -/
def capturedOutput : GitError → Option String
  | .failed _ _ output => if output = "" then none else some output
  | .spawn .. => none

end GitError

end BuildHook
