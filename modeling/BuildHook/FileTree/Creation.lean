import BuildHook.Io.Error
import BuildHook.Path
import BuildHook.Procedure

/-!
# Making directories call by call

A directory is made with all that is missing above it by several calls of the operating system, each
of which makes one directory or looks for it. Whatever else happens can happen between two of them.
-/

namespace BuildHook

/-- A call of the operating system for one directory, which is to be made or looked for. -/
inductive DirectoryCall where
  | make (path : String)
  | find (path : String)

/-- The answers to a call. -/
def DirectoryCall.Answer : DirectoryCall → Type
  | .make _ => Except IoError Unit
  | .find _ => Bool

/-- The making of a directory, call by call. -/
abbrev Creation := Procedure DirectoryCall DirectoryCall.Answer (Except IoError Unit)

namespace Creation

/-- What came of making a directory. A directory that is there already is as good as a new one. -/
def settle (path : String) : Except IoError Unit → Creation
  | .ok () => .done (.ok ())
  | .error cause =>
    .ask (.find path) fun (there : Bool) => .done (if there then .ok () else .error cause)

/-- Makes a directory once those above it have been made, if they could be. -/
def finish (path : String) : Except IoError Unit → Creation
  | .ok () => .ask (.make path) (settle path)
  | .error cause => .done (.error cause)

/-- Goes on after the first call that makes a directory: if something above it is missing, makes that
first. -/
def goOn (path : String) (above : Creation) : Except IoError Unit → Creation
  | .ok () => .done (.ok ())
  | .error cause =>
    if cause = .notFound then above.andThen (finish path) else settle path (.error cause)

/-- Makes a directory, and what is missing above it. What was made above stays even if the directory
itself cannot be made. -/
def ensure (path : String) (above : Creation) : Creation := .ask (.make path) (goOn path above)

/-- Makes the directory that components name, and those above it. The components stand in reverse
order. -/
def all : List Path.Component → Creation
  | [] => .done (.ok ())
  | last :: above => ensure (Path.ofComponents (last :: above).reverse) (all above)

/-- Makes a directory and those above it that are missing. The empty path needs nothing. -/
def ofPath (path : String) : Creation :=
  match (Path.components path).reverse with
  | [] => .done (.ok ())
  | _ :: above => ensure path (all above)

end Creation

end BuildHook
