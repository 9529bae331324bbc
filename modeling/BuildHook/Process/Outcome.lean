import BuildHook.Io.Error
import BuildHook.Process.Failure
import BuildHook.Text.Utf8

/-!
# Finished processes

What a process leaves behind: how it ended and what it wrote.
-/

namespace BuildHook.Process

/-- A finished process. -/
structure Outcome where
  code : ExitCode
  output : Bytes
  errors : Bytes

/-- A process succeeded if it ended with code zero. -/
def Outcome.succeeded (outcome : Outcome) : Bool := outcome.code == some 0

/-- Everything that was written, as text: first the output, then the errors, each with U+FFFD for
what is not UTF-8. -/
def Outcome.text (outcome : Outcome) : String :=
  Utf8.decodeLossy outcome.output ++ Utf8.decodeLossy outcome.errors

end BuildHook.Process
