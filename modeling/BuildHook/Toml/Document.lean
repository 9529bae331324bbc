import BuildHook.Json.Value

/-!
# TOML tables

A document is built line by line. Every table remembers how it came about, which decides what may
still be added to it: a header opens a table once, but may open one that was only passed on the way
to another; a dotted key extends only tables that dotted keys have made.
-/

namespace BuildHook.Toml

/-- How a table came about: by its own header, on the way to a table of a header, or by a dotted
key. -/
inductive Origin where
  | header
  | passed
  | dotted

/-- What a name stands for. The last table of an array of tables is the one that is open; those
before it stand in reverse order. -/
inductive Item where
  | value (content : Json)
  | table (origin : Origin) (members : List (String × Item))
  | tables (last : List (String × Item)) (earlier : List (List (String × Item)))

/-- The content of a table, in order. -/
abbrev Members := List (String × Item)

namespace Members

/-- What a name stands for. -/
def item? (members : Members) (name : String) : Option Item :=
  (members.find? fun member => member.1 == name).map (·.2)

/-- Gives a name that is there another meaning. -/
def replace (members : Members) (name : String) (item : Item) : Members :=
  members.map fun member => if member.1 == name then (name, item) else member

/-- Adds a name. -/
def add (members : Members) (name : String) (item : Item) : Members := members ++ [(name, item)]

/-- Takes a name away. -/
def remove (members : Members) (name : String) : Members :=
  members.filter fun member => member.1 != name

/-- Adds a value under a dotted key. `isOpen` tells whether values may be added to this table
itself. -/
def define (isOpen : Bool) (members : Members) : List String → Json → Option Members
  | [], _ => none
  | [name], content =>
    if isOpen && (members.item? name).isNone then some (members.add name (.value content)) else none
  | name :: rest, content =>
    match members.item? name with
    | none => do
      return members.add name (.table .dotted (← define true [] rest content))
    | some (.table .dotted inner) => do
      return members.replace name (.table .dotted (← define true inner rest content))
    | some (.table .passed inner) => do
      return members.replace name (.table .passed (← define false inner rest content))
    | some (.tables last earlier) => do
      return members.replace name (.tables (← define false last rest content) earlier)
    | some (.table .header _) => none
    | some (.value _) => none

/-- Changes the table that a header names, passing those on the way. -/
def within (change : Members → Option Members) (members : Members) : List String → Option Members
  | [] => change members
  | name :: rest =>
    match members.item? name with
    | none => do
      return members.add name (.table .passed (← within change [] rest))
    | some (.table origin inner) => do
      return members.replace name (.table origin (← within change inner rest))
    | some (.tables last earlier) => do
      return members.replace name (.tables (← within change last rest) earlier)
    | some (.value _) => none

/-- Opens a table by its header. One that was only passed moves to the end. -/
def openTable (name : String) (members : Members) : Option Members :=
  match members.item? name with
  | none => some (members.add name (.table .header []))
  | some (.table .passed inner) => some ((members.remove name).add name (.table .header inner))
  | _ => none

/-- Opens the next table of an array of tables. -/
def pushTable (name : String) (members : Members) : Option Members :=
  match members.item? name with
  | none => some (members.add name (.tables [] []))
  | some (.tables last earlier) => some (members.replace name (.tables [] (last :: earlier)))
  | _ => none

end Members

mutual

/-- The value that an item stands for. -/
def Item.toJson : Item → Json
  | .value content => content
  | .table _ members => .object (Item.membersToJson members)
  | .tables last earlier =>
    .array (Item.tablesToJson [.object (Item.membersToJson last)] earlier)

/-- The members of the object that a table stands for. -/
def Item.membersToJson : List (String × Item) → List (String × Json)
  | [] => []
  | (name, item) :: rest => (name, item.toJson) :: Item.membersToJson rest

/-- Puts the objects that tables stand for in front of later ones, in reverse order. -/
def Item.tablesToJson (later : List Json) : List (List (String × Item)) → List Json
  | [] => later
  | members :: rest => Item.tablesToJson (.object (Item.membersToJson members) :: later) rest

end

/-- A document with the path of the table that is open. -/
structure Document where
  root : Members
  path : List String

namespace Document

/-- The document without content. -/
def empty : Document := ⟨[], []⟩

/-- Adds a value to the open table. -/
def define (document : Document) (key : List String) (content : Json) : Option Document := do
  let root ← document.root.within (fun members => members.define true key content) document.path
  return { document with root }

/-- Opens the table that a header names. -/
def openTable (document : Document) (path : List String) : Option Document := do
  let root ← document.root.within (Members.openTable (← path.getLast?)) path.dropLast
  return ⟨root, path⟩

/-- Opens the next table of the array that a header names. -/
def pushTable (document : Document) (path : List String) : Option Document := do
  let root ← document.root.within (Members.pushTable (← path.getLast?)) path.dropLast
  return ⟨root, path⟩

/-- The object that a document stands for. -/
def toJson (document : Document) : Json := .object (Item.membersToJson document.root)

end Document

end BuildHook.Toml
