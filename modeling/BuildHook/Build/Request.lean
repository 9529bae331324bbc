import BuildHook.Build.Error
import BuildHook.Git.Call
import BuildHook.Procedure.History
import BuildHook.Status.Update

/-!
# Requests of a build

Everything that a build asks of its surroundings, and the form of the answers. Each request tells
all that it depends on, so the list of requests is the trace of a build.
-/

namespace BuildHook.Build

/-- A request of a build. The requests `enter` and `leave` mark the time in which the build has a
workspace for itself. -/
inductive Request where
  | stageKey (content : String)
  | discardKey (key : StagedKey)
  | publish (update : StatusUpdate)
  | enter (workspace : String)
  | leave (workspace : String)
  | makeDirectories (path : String)
  | clone (url dest : String) (key : Option StagedKey)
  | update (dest : String) (key : Option StagedKey)
  | checkout (dest revision : String)
  | readText (path : String)
  | openSandbox (dest : String)
  | bind (name : String) (value : Json)
  | evaluate (source : String)
  | load (path : String)

/-- What a request is about. -/
inductive Request.Kind where
  | key
  | report
  | lock
  | work
  deriving DecidableEq

/-- What a request is about: the staged key, a report, the lock of the workspace, or the work that
is done in the workspace. -/
def Request.kind : Request → Kind
  | .stageKey _ => .key
  | .discardKey _ => .key
  | .publish _ => .report
  | .enter _ => .lock
  | .leave _ => .lock
  | .makeDirectories _ => .work
  | .clone .. => .work
  | .update .. => .work
  | .checkout .. => .work
  | .readText _ => .work
  | .openSandbox _ => .work
  | .bind .. => .work
  | .evaluate _ => .work
  | .load _ => .work

/-- The answers to a request. -/
def Reply : Request → Type
  | .stageKey _ => Except IoError StagedKey
  | .discardKey _ => Unit
  | .publish _ => Except StatusError Unit
  | .enter _ => Unit
  | .leave _ => Unit
  | .makeDirectories _ => Except IoError Unit
  | .clone .. => Except GitError Unit
  | .update .. => Except GitError Unit
  | .checkout .. => Except GitError Unit
  | .readText _ => Except IoError String
  | .openSandbox _ => Unit
  | .bind .. => Except SandboxError Unit
  | .evaluate _ => Except SandboxError Unit
  | .load _ => Except SandboxError Unit

/-- A procedure that makes requests of a build. -/
abbrev Steps := Procedure Request Reply

/-- A request with its answer. -/
abbrev Exchange := Procedure.Exchange Request Reply

/-- Steps that can end a build with an error. -/
abbrev Attempt (ε : Type) := ExceptT ε Steps

/-- Makes a request. -/
def request (r : Request) : Steps (Reply r) := Procedure.question r

/-- Ends an attempt if an answer is an error, which is put into its context. -/
def check {ε δ α : Type} (answer : Steps (Except δ α)) (context : δ → ε) : Attempt ε α :=
  ExceptT.mk do return (← answer).mapError context

end BuildHook.Build
