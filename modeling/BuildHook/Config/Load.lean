import BuildHook.Config.Toml
import BuildHook.Io.Error
import BuildHook.Procedure

/-!
# Loading configurations

A configuration is read from a file, and then the key files that it names. A key file is read only
for a project without a key of its own; the first one that cannot be read ends the loading.
-/

namespace BuildHook.Config

/-- Why a configuration could not be loaded. -/
inductive LoadError where
  | unreadable (path : String) (cause : IoError)
  | unusable (path : String) (fault : Fault)
  | keyUnreadable (project path : String) (cause : IoError)

/-- The message of an error. -/
def LoadError.message : LoadError → String
  | .unreadable path cause => "Failed to read config file '" ++ path ++ "': " ++ cause.message
  | .unusable path fault =>
      "Failed to parse config file '" ++ path ++ "': TOML parsing error: " ++ fault.message
  | .keyUnreadable project path cause =>
      "Failed to read SSH key for '" ++ project ++ "' from '" ++ path ++ "': " ++ cause.message

/-- A procedure that reads text files. -/
abbrev Reading := Procedure String fun _ => Except IoError String

/-- Gives a project without a key the content of its key file. -/
def loadKey (project : ProjectEntry) : Reading (Except LoadError ProjectEntry) :=
  match project.sshKey, project.sshKeyFile with
  | none, some path => do
    match ← Procedure.question path with
    | .ok key => return .ok { project with sshKey := some key }
    | .error cause => return .error (.keyUnreadable project.name path cause)
  | _, _ => return .ok project

/-- Loads the keys of projects in order. -/
def loadKeys : List ProjectEntry → Reading (Except LoadError (List ProjectEntry))
  | [] => return .ok []
  | project :: rest => do
    match ← loadKey project with
    | .error e => return .error e
    | .ok project =>
      match ← loadKeys rest with
      | .error e => return .error e
      | .ok projects => return .ok (project :: projects)

/-- Loads a configuration and the keys of its projects. -/
def load (path : String) : Reading (Except LoadError Config) := do
  match ← Procedure.question path with
  | .error cause => return .error (.unreadable path cause)
  | .ok text =>
    match ofToml text with
    | .error fault => return .error (.unusable path fault)
    | .ok config =>
      match ← loadKeys config.projects with
      | .error e => return .error e
      | .ok projects => return .ok { config with projects }

end BuildHook.Config
