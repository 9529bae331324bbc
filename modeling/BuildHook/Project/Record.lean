import BuildHook.Text.Quoted

/-!
# Project records

What is known about a project that may be built. Texts shown in logs never hold the secret or the
key.
-/

namespace BuildHook

/-- A project. An empty secret means that none is configured, an empty key that there is none. -/
structure ProjectRecord where
  name : String
  secret : String
  sshKey : Option String
  deriving DecidableEq

namespace ProjectRecord

/-- The key of the project, if it has one. -/
def usableKey (project : ProjectRecord) : Option String :=
  project.sshKey.filter fun key => key != ""

/-- Whether the project has a key. -/
def hasSshKey (project : ProjectRecord) : Bool := project.usableKey.isSome

/-- An optional part as it is shown in logs. -/
def shownOption (part : Option String) : String :=
  match part with
  | some shown => "Some(" ++ shown ++ ")"
  | none => "None"

/-- What stands for a hidden text. -/
def redacted : String := Text.quoted "<redacted>"

/-- The record as it is shown in logs: of the key only its length in bytes. -/
def shown (project : ProjectRecord) : String :=
  "ProjectRecord \x7b name: " ++ Text.quoted project.name ++ ", secret: " ++ redacted
    ++ ", ssh_key: " ++ shownOption (project.sshKey.map fun key => toString key.utf8ByteSize)
    ++ " \x7d"

end ProjectRecord

end BuildHook
