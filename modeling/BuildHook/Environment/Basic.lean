/-!
# Environments

The variables that a process starts with.
-/

namespace BuildHook

/-- Variables with their values, each name once. -/
abbrev Environment := List (String × String)

namespace Environment

/-- The value of a variable. -/
def get? (environment : Environment) (name : String) : Option String :=
  (environment.find? fun entry => entry.1 == name).map (·.2)

/-- Sets a variable, unless it is set. -/
def setDefault (environment : Environment) (name value : String) : Environment :=
  if (environment.get? name).isSome then environment else environment ++ [(name, value)]

end Environment

end BuildHook
