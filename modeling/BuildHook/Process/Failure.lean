import BuildHook.Text.Lines

/-!
# Failed processes

How a message tells that a process failed: its exit code, or that a signal ended it, and the most
telling line of its output. That is the last line that speaks of an error, or else the last line
that is not blank, cut to a fixed number of characters.
-/

namespace BuildHook.Process

/-- How a process ended: with a code, or by a signal. -/
abbrev ExitCode := Option Int

/-- How a message names the end of a process. -/
def exitText : ExitCode → String
  | some code => "exit code " ++ toString code
  | none => "terminated by signal"

/-- The longest excerpt of a line. -/
def summaryLength : Nat := 200

/-- Whether a line speaks of an error. -/
def speaksOfError (line : List Char) : Bool :=
  Text.occursIn "Error".toList line || "fatal:".toList.isPrefixOf line
    || "error:".toList.isPrefixOf line

/-- The lines of an output that are not blank, without blanks at their ends. -/
def tellingLines (output : List Char) : List (List Char) :=
  ((Text.lines output).map Text.trim).filter fun line => !line.isEmpty

/-- The line that stands for an output in messages. -/
def summaryLine? (output : List Char) : Option (List Char) :=
  let lines := tellingLines output
  match (lines.filter speaksOfError).getLast? with
  | some line => some line
  | none => lines.getLast?

/-- What a message says about an output. -/
def summary (output : String) : String :=
  match summaryLine? output.toList with
  | some line => ": " ++ String.ofList (line.take summaryLength)
  | none => ""

/-- How a message tells that a process failed. -/
def failureText (subject : String) (code : ExitCode) (output : String) : String :=
  subject ++ " failed (" ++ exitText code ++ ")" ++ summary output

end BuildHook.Process
