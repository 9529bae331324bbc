import BuildHook.Path

/-!
# Locations

Where paths lead: a list of names from the directory in which relative paths start, from one above it
or from the root.
-/

namespace BuildHook

/-- Where the names of a location start. -/
inductive Origin where
  | here
  | above (levels : Nat)
  | root
  deriving DecidableEq

/-- The directory above an origin; nothing is above the root. -/
def Origin.parent : Origin → Origin
  | .here => .above 1
  | .above levels => .above (levels + 1)
  | .root => .root

/-- The names that lead from an origin to an entry. -/
structure Location where
  origin : Origin
  names : List (List Char)
  deriving DecidableEq

namespace Location

/-- The location of a name in a directory. -/
def child (directory : Location) (name : List Char) : Location :=
  { directory with names := directory.names ++ [name] }

/-- The path of a location. -/
def text (location : Location) : String :=
  let names := String.ofList (['/'].intercalate location.names)
  match location.origin with
  | .here => names
  | .above levels => (List.replicate levels "..").foldr Path.join names
  | .root => "/" ++ names

end Location

end BuildHook
