/-!
# Paths

A path is a text. Its meaning is its list of components: repeated and trailing separators are left
out, and so is `.` behind the first place. Two paths with equal components name the same file.
-/

namespace BuildHook.Path

/-- One part of a path. -/
inductive Component where
  | root
  | current
  | parent
  | normal (name : List Char)
  deriving DecidableEq

/-- The pieces between separators; a path without a separator is one piece. -/
def pieces : List Char → List (List Char)
  | [] => [[]]
  | c :: rest =>
    if c = '/' then [] :: pieces rest
    else
      match pieces rest with
      | [] => [[c]]
      | piece :: more => (c :: piece) :: more

/-- The component of a piece that is not the first of a relative path. -/
def innerComponent? (piece : List Char) : Option Component :=
  if piece = [] then none
  else if piece = ['.'] then none
  else if piece = ['.', '.'] then some .parent
  else some (.normal piece)

/-- The component of the first piece of a path. -/
def firstComponent? (piece : List Char) : Option Component :=
  if piece = ['.'] then some .current else innerComponent? piece

/-- The components of a path, given as characters. -/
def componentsOf (path : List Char) : List Component :=
  match path with
  | '/' :: rest => .root :: (pieces rest).filterMap innerComponent?
  | _ =>
    match pieces path with
    | [] => []
    | first :: rest => (firstComponent? first).toList ++ rest.filterMap innerComponent?

/-- The components of a path. -/
def components (path : String) : List Component := componentsOf path.toList

/-- Whether a path starts at the root. -/
def isAbsolute (path : String) : Bool := ['/'].isPrefixOf path.toList

/-- Whether a component is an ordinary name. -/
def Component.isNormal : Component → Bool
  | .normal _ => true
  | _ => false

/-- The path of `path` as seen from `base`. An absolute path stands for itself. -/
def join (base path : String) : String :=
  if isAbsolute path then path
  else if base = "" || ['/'].isSuffixOf base.toList then base ++ path
  else base ++ "/" ++ path

/-- The text of a component. -/
def Component.text : Component → List Char
  | .root => []
  | .current => ['.']
  | .parent => ['.', '.']
  | .normal name => name

/-- A path with given components, of which only the first can be the root. -/
def ofComponents (components : List Component) : String :=
  if components = [.root] then "/"
  else String.ofList (['/'].intercalate (components.map Component.text))

/-- Whether a path holds the character that no file name can hold. -/
def hasNul (path : String) : Bool := path.toList.any fun c => c.toNat == 0

end BuildHook.Path
