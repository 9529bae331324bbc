import BuildHook.Json.Printer
import BuildHook.Procedure
import BuildHook.Process.Outcome
import BuildHook.Script.Error

/-!
# Sandboxes

A sandbox gathers a program: bound values, evaluated sources and loaded files. A source is kept only
if the interpreter accepts the program with it; a loaded file is kept and the whole program run.
-/

namespace BuildHook

/-- A sandbox with the program gathered so far. -/
structure Sandbox where
  interpreter : String
  workdir : String
  program : String

namespace Sandbox

/-- What a sandbox needs from its surroundings. A program is staged in a file of the working
directory before the interpreter is started on it. -/
inductive Need where
  | read (path : String)
  | stage (workdir program : String)
  | interpret (interpreter workdir : String) (flags : List String) (program : String)

/-- What the surroundings answer. -/
def Supply : Need → Type
  | .read _ => Except IoError String
  | .stage .. => Except IoError Unit
  | .interpret .. => Except IoError Process.Outcome

/-- Asks the surroundings for what is needed. -/
def need (n : Need) : Procedure Need Supply (Supply n) := Procedure.question n

/-- A call of a sandbox: its result, and the sandbox afterwards. -/
abbrev Call := Procedure Need Supply (Except SandboxError Unit × Sandbox)

/-- A sandbox that has gathered nothing. -/
def create (interpreter workdir : String) : Sandbox := ⟨interpreter, workdir, ""⟩

/-- Letters of identifiers: ASCII letters, `_` and `$`. -/
def isNameStart (c : Char) : Bool := c.isAlpha || c == '_' || c == '$'

/-- Whether a text is an identifier. -/
def isName (name : String) : Bool :=
  match name.toList with
  | [] => false
  | c :: rest => isNameStart c && rest.all fun c => isNameStart c || c.isDigit

/-- The statement that binds a value. -/
def binding (name : String) (value : Json) : String :=
  "var " ++ name ++ " = " ++ value.canonical.render ++ ";\n"

/-- The sandbox with more program text. -/
def extend (s : Sandbox) (text : String) : Sandbox := { s with program := s.program ++ text }

/-- Binds a value to an identifier. -/
def bind (s : Sandbox) (name : String) (value : Json) : Except SandboxError Unit × Sandbox :=
  if isName name then (.ok (), s.extend (binding name value))
  else (.error (.invalidName name), s)

/-- Stages a program and starts the interpreter on it. -/
def interpret (s : Sandbox) (flags : List String) (program : String) :
    Procedure Need Supply (Except SandboxError Process.Outcome) := do
  match ← need (.stage s.workdir program) with
  | .error cause => return .error (.staging cause)
  | .ok () =>
    match ← need (.interpret s.interpreter s.workdir flags program) with
    | .error cause => return .error (.spawn s.interpreter cause)
    | .ok outcome => return .ok outcome

/-- Adds a source if the interpreter finds the program with it well formed. -/
def evaluate (s : Sandbox) (source : String) : Call := do
  let candidate := s.extend (source ++ "\n")
  match ← s.interpret ["--check"] candidate.program with
  | .error e => return (.error e, s)
  | .ok outcome =>
    if outcome.succeeded then return (.ok (), candidate)
    else return (.error (.compile outcome.text), s)

/-- Adds the content of a file and runs the program. -/
def load (s : Sandbox) (path : String) : Call := do
  match ← need (.read path) with
  | .error cause => return (.error (.read path cause), s)
  | .ok source =>
    let loaded := s.extend (source ++ "\n")
    match ← loaded.interpret [] loaded.program with
    | .error e => return (.error e, loaded)
    | .ok outcome =>
      if outcome.succeeded then return (.ok (), loaded)
      else return (.error (.execution outcome.code outcome.text), loaded)

end Sandbox

end BuildHook
