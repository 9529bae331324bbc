import BuildHook.FileTree
import BuildHook.Start.Sequence

/-!
# Rehearsed starts

The start of the service in a file tree, where every address can be listened at.
-/

namespace BuildHook.Rehearsal

/-- The name of a log file, which tells a day. -/
def logFile : String := "pushbuild.2000-01-01"

/-- Answers a request of the start. -/
def openWith : (r : Start.Request) → FileTree → Start.Reply r × FileTree
  | .readBytes path, tree => (tree.read path, tree)
  | .readText path, tree => (tree.readText path, tree)
  | .makeDirectories path, tree => tree.makeDirectories path
  | .openLog directory, tree =>
    match tree.makeFile (Path.join directory logFile) with
    | .ok tree => (.ok (), tree)
    | .error cause => (.error cause, tree)
  | .listen .., tree => (.ok (), tree)

/-- Starts the service in a file tree. -/
def start (environment : Environment) (tree : FileTree) :
    Except Start.StartError Config × FileTree :=
  (Start.run environment).run openWith tree

/-- Opens the log in a directory of a file tree. -/
def openLog (directory : String) (tree : FileTree) : Except Start.StartError Unit × FileTree :=
  (Start.openLog directory).run.run openWith tree

/-- Loads a configuration from a file tree. -/
def loadConfig (path : String) (tree : FileTree) : Except Config.LoadError Config :=
  ((Config.load path).run (fun file tree => (tree.readText file, tree)) tree).1

end BuildHook.Rehearsal
