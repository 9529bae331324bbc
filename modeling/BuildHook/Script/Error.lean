import BuildHook.Io.Error
import BuildHook.Json.Cursor
import BuildHook.Process.Failure

/-!
# Failed scripts

Why a sandbox refuses a call, and at which point the scripts of a build failed.
-/

namespace BuildHook

/-- Why a call of a sandbox failed. -/
inductive SandboxError where
  | invalidName (name : String)
  | read (path : String) (cause : IoError)
  | spawn (interpreter : String) (cause : IoError)
  | compile (output : String)
  | execution (code : Process.ExitCode) (output : String)
  | staging (cause : IoError)
  deriving DecidableEq

namespace SandboxError

/-- The message of an error. -/
def message : SandboxError → String
  | .invalidName name => "invalid variable name " ++ Text.quoted name
  | .read path cause => "failed to read " ++ path ++ ": " ++ cause.message
  | .spawn interpreter cause => "failed to start " ++ interpreter ++ ": " ++ cause.message
  | .compile output => "syntax error: " ++ output
  | .execution code output => Process.failureText "script" code output
  | .staging cause => "failed to stage script: " ++ cause.message

/-- What the interpreter wrote, unless it wrote nothing. -/
def capturedOutput : SandboxError → Option String
  | .compile output => if output = "" then none else some output
  | .execution _ output => if output = "" then none else some output
  | _ => none

end SandboxError

/-- At which point the scripts of a build failed. -/
inductive ScriptError where
  | serialize (cause : Json.Error)
  | bootstrap (cause : SandboxError)
  | malformedDefinition (cause : SandboxError) (wrapped : String)
  | runner (path : String) (cause : SandboxError)

namespace ScriptError

/-- The message of an error. -/
def message : ScriptError → String
  | .serialize cause => "failed to serialize push record: " ++ cause.message
  | .bootstrap cause => "failed JS bootstrap: " ++ cause.message
  | .malformedDefinition cause wrapped =>
      "pipeline.js is not well formed: " ++ cause.message ++ "\n" ++ wrapped
  | .runner path cause => path ++ ": " ++ cause.message

/-- The failed call of the sandbox behind an error. -/
def sandboxError : ScriptError → Option SandboxError
  | .serialize _ => none
  | .bootstrap cause => some cause
  | .malformedDefinition cause _ => some cause
  | .runner _ cause => some cause

end ScriptError

end BuildHook
