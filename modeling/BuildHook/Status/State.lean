import BuildHook.Json.Value
import BuildHook.Shape.FromJsonText

/-!
# Build states

The states in which a build is reported.
-/

namespace BuildHook

/-- The state of a build. -/
inductive BuildState where
  | pending
  | success
  | failure
  | error
  deriving DecidableEq, Inhabited

namespace BuildState

/-- The name of a state. -/
def name : BuildState → String
  | .pending => "pending"
  | .success => "success"
  | .failure => "failure"
  | .error => "error"

/-- All states, in the order in which messages list them. -/
def all : List BuildState := [.pending, .success, .failure, .error]

/-- The state of a name. -/
def ofName? (s : String) : Option BuildState := all.find? (·.name == s)

/-- A state as JSON. -/
def toJson (state : BuildState) : Json := .string state.name

/-- Reads a state from JSON text. -/
def ofJsonText (bytes : Bytes) : Except Json.Error BuildState :=
  Json.Reader.readAll
    (do
      let found ← Json.Reader.variant (all.map name)
      Json.Reader.atEnd
      return (ofName? found).getD .error)
    bytes

end BuildState

end BuildHook
