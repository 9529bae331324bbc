import BuildHook.FileTree.Creation
import BuildHook.Location
import BuildHook.Text.Utf8

/-!
# File trees

Directories, files and symbolic links below one directory, in which relative paths start, and a few
that every system has elsewhere. Every path is resolved step by step and along the links on its way,
so `..` and `.` mean what they mean to the operating system and each failure is the operating
system's.
-/

namespace BuildHook

/-- A file, a directory with what stands in it under names, or a symbolic link to a path. -/
inductive Entry where
  | file (content : Bytes)
  | directory (entries : List (List Char × Entry))
  | link (target : String)

namespace Entry

/-- The directory in which nothing stands. -/
def emptyDirectory : Entry := .directory []

/-- Whether an entry is a directory. -/
def isDirectory : Entry → Bool
  | .directory _ => true
  | _ => false

/-- What stands under a name. -/
def child? : Entry → List Char → Option Entry
  | .directory entries, name => (entries.find? fun entry => entry.1 == name).map (·.2)
  | _, _ => none

/-- Puts an entry where names lead, in place of what is there. Nothing can be put below anything but
a directory. -/
def put : Entry → List (List Char) → Entry → Entry
  | _, [], new => new
  | .directory entries, name :: rest, new =>
    let inner := ((Entry.directory entries).child? name).getD emptyDirectory
    .directory ((entries.filter fun entry => entry.1 != name) ++ [(name, inner.put rest new)])
  | entry, _ :: _, _ => entry

/-- The paths of all files and links in an entry that stands at a path, and of the empty directories
with a separator behind them. -/
def paths (path : String) : Entry → List String
  | .file _ => [path]
  | .link _ => [path]
  | .directory entries =>
    if entries.isEmpty then [path ++ "/"]
    else entries.attach.flatMap fun ⟨(name, entry), h⟩ =>
      have : sizeOf entry < 1 + sizeOf entries := by
        have := List.sizeOf_lt_of_mem h
        simp at this
        omega
      entry.paths (Path.join path (String.ofList name))

end Entry

/-- Where a path has led to: the entries passed since the origin, with their names, the last one
first. -/
structure Place where
  origin : Origin
  trail : List (List Char × Entry)

namespace Place

/-- The place of an origin. -/
def start (origin : Origin) : Place := ⟨origin, []⟩

/-- The place above. -/
def parent (place : Place) : Place :=
  match place.trail with
  | [] => .start place.origin.parent
  | _ :: trail => ⟨place.origin, trail⟩

/-- The location of a place. -/
def location (place : Place) : Location := ⟨place.origin, (place.trail.map (·.1)).reverse⟩

end Place

/-- What stands below origins. There are directories at the others, too. -/
structure FileTree where
  origins : List (Origin × Entry)

namespace FileTree

/-- The directories that every system has, each behind the one in which it stands. -/
def systemDirectories : List (List String) :=
  [["bin"], ["boot"], ["dev"], ["dev", "shm"], ["etc"], ["home"], ["lib"], ["media"], ["mnt"],
    ["opt"], ["proc"], ["root"], ["run"], ["sbin"], ["srv"], ["sys"], ["tmp"], ["usr"],
    ["usr", "bin"], ["usr", "lib"], ["usr", "local"], ["usr", "local", "bin"], ["usr", "sbin"],
    ["usr", "share"], ["var"], ["var", "lib"], ["var", "log"], ["var", "tmp"]]

/-- The files that every system has: one that is always empty. -/
def systemFiles : List (List String) := [["dev", "null"]]

/-- What every system has below its root. -/
def system : Entry :=
  let add (new : Entry) (root : Entry) (names : List String) : Entry :=
    root.put (names.map String.toList) new
  systemFiles.foldl (add (.file [])) (systemDirectories.foldl (add .emptyDirectory) .emptyDirectory)

/-- The tree without entries. -/
def empty : FileTree := ⟨[(.root, system)]⟩

/-- What stands at an origin. -/
def atOrigin (tree : FileTree) (origin : Origin) : Entry :=
  ((tree.origins.find? fun entry => entry.1 == origin).map (·.2)).getD .emptyDirectory

/-- What stands at a place. -/
def entryAt (tree : FileTree) (place : Place) : Entry :=
  match place.trail with
  | [] => tree.atOrigin place.origin
  | (_, entry) :: _ => entry

/-- Puts an entry at a location. -/
def put (tree : FileTree) (location : Location) (entry : Entry) : FileTree :=
  let changed := (tree.atOrigin location.origin).put location.names entry
  ⟨(location.origin, changed) :: tree.origins.filter fun other => other.1 != location.origin⟩

/-- The longest name, in bytes. -/
def maxName : Nat := 255

/-- The longest path, in bytes. -/
def maxPath : Nat := 4095

/-- The length of a name in bytes. -/
def byteLength (s : List Char) : Nat := s.foldl (fun n c => n + c.utf8Size) 0

/-- How many symbolic links are followed on the way along one path. -/
def maxLinks : Nat := 40

/-- Where a path starts, if relative paths start at a place. -/
def startOf (here : Place) (path : String) : Place :=
  if Path.isAbsolute path then .start .root else here

/-- Follows the pieces of a path from a place. At a symbolic link, `follow` goes on to the pieces of
its target and those that are left. -/
def walkBy (tree : FileTree) (follow : Place → List (List Char) → Except IoError Place)
    (here : Place) : List (List Char) → Except IoError Place
  | [] => .ok here
  | piece :: rest =>
    let entry := tree.entryAt here
    if !entry.isDirectory then .error .notADirectory
    else if piece = [] || piece = ['.'] then tree.walkBy follow here rest
    else if piece = ['.', '.'] then tree.walkBy follow here.parent rest
    else if maxName < byteLength piece then .error .nameTooLong
    else
      match entry.child? piece with
      | some (.link target) => follow (startOf here target) (Path.pieces target.toList ++ rest)
      | some child => tree.walkBy follow ⟨here.origin, (piece, child) :: here.trail⟩ rest
      | none => .error .notFound

/-- Follows the pieces of a path from a place, and no more than so many symbolic links. -/
def walkWithin (tree : FileTree) : Nat → Place → List (List Char) → Except IoError Place
  | 0 => tree.walkBy fun _ _ => .error .tooManyLinks
  | links + 1 => tree.walkBy (tree.walkWithin links)

/-- Follows the pieces of a path from a place. -/
def walk (tree : FileTree) (here : Place) (pieces : List (List Char)) : Except IoError Place :=
  tree.walkWithin maxLinks here pieces

/-- Whether a text can be a path at all. -/
def checkPath (path : String) : Except IoError Unit :=
  if Path.hasNul path then .error .nulInPath
  else if path = "" then .error .notFound
  else if maxPath < path.utf8ByteSize then .error .nameTooLong
  else .ok ()

/-- Where a path leads from a place. -/
def locateFrom (tree : FileTree) (here : Place) (path : String) : Except IoError Place := do
  checkPath path
  tree.walk (startOf here path) (Path.pieces path.toList)

/-- Where a path leads. -/
def locate (tree : FileTree) (path : String) : Except IoError Place :=
  tree.locateFrom (.start .here) path

/-- The directory to which a path leads. -/
def directory (tree : FileTree) (path : String) : Except IoError Place := do
  let place ← tree.locate path
  if (tree.entryAt place).isDirectory then return place else .error .notADirectory

/-- Whether a path leads to a directory. -/
def isDirectory (tree : FileTree) (path : String) : Bool := (tree.directory path).isOk

/-- The content of the file that a path leads to. -/
def read (tree : FileTree) (path : String) : Except IoError Bytes := do
  match tree.entryAt (← tree.locate path) with
  | .file content => .ok content
  | .directory _ => .error .isADirectory
  | .link _ => .error .tooManyLinks

/-- The content of a file as text. -/
def readText (tree : FileTree) (path : String) : Except IoError String := do
  match Utf8.decode? (← tree.read path) with
  | some text => .ok text
  | none => .error .notUtf8

/-- The pieces of a path without the empty ones at its end. -/
def creationPieces (path : String) : List (List Char) :=
  ((Path.pieces path.toList).reverse.dropWhile List.isEmpty).reverse

/-- Makes the directory that a path names. Its parent must be there, and it must not. -/
def makeDirectory (tree : FileTree) (path : String) : Except IoError FileTree := do
  checkPath path
  let pieces := creationPieces path
  match pieces.getLast? with
  | none => .error .alreadyExists
  | some name =>
    let parent ← tree.walk (startOf (.start .here) path) pieces.dropLast
    let entry := tree.entryAt parent
    if !entry.isDirectory then .error .notADirectory
    else if name = ['.'] || name = ['.', '.'] then .error .alreadyExists
    else if maxName < byteLength name then .error .nameTooLong
    else if (entry.child? name).isSome then .error .alreadyExists
    else .ok (tree.put (parent.location.child name) .emptyDirectory)

/-- Makes an empty file, unless there is a file where a path leads from a place. If the path names a
symbolic link, `follow` goes on to its target. -/
def makeFileBy (tree : FileTree) (follow : Place → String → Except IoError FileTree) (here : Place)
    (path : String) : Except IoError FileTree := do
  checkPath path
  let pieces := Path.pieces path.toList
  let parent ← tree.walk (startOf here path) pieces.dropLast
  let name := pieces.getLast?.getD []
  let entry := tree.entryAt parent
  if !entry.isDirectory then .error .notADirectory
  else if name = [] || name = ['.'] || name = ['.', '.'] then .error .isADirectory
  else if maxName < byteLength name then .error .nameTooLong
  else
    match entry.child? name with
    | some (.directory _) => .error .isADirectory
    | some (.file _) => .ok tree
    | some (.link target) => follow parent target
    | none => .ok (tree.put (parent.location.child name) (.file []))

/-- Makes an empty file, unless there is one, and follows no more than so many links to it. -/
def makeFileWithin (tree : FileTree) : Nat → Place → String → Except IoError FileTree
  | 0 => tree.makeFileBy fun _ _ => .error .tooManyLinks
  | links + 1 => tree.makeFileBy (tree.makeFileWithin links)

/-- Makes an empty file, unless there is a file that a path names. -/
def makeFile (tree : FileTree) (path : String) : Except IoError FileTree :=
  tree.makeFileWithin maxLinks (.start .here) path

/-- What a change comes to that leaves everything as it is if it fails. -/
def attempt (tree : FileTree) : Except IoError FileTree → Except IoError Unit × FileTree
  | .ok changed => (.ok (), changed)
  | .error cause => (.error cause, tree)

/-- What a call for a directory comes to. -/
def perform : (call : DirectoryCall) → FileTree → call.Answer × FileTree
  | .make path, tree => tree.attempt (tree.makeDirectory path)
  | .find path, tree => (tree.isDirectory path, tree)

/-- Makes a directory and those above it that are missing, with no other call in between. -/
def makeDirectories (tree : FileTree) (path : String) : Except IoError Unit × FileTree :=
  (Creation.ofPath path).run perform tree

/-- Puts a file or a directory where a path leads, with the directories above it. What stands in the
way makes this do nothing. -/
def place (tree : FileTree) (path : String) (content : Option Bytes) : FileTree :=
  match content with
  | none => (tree.makeDirectories path).2
  | some bytes =>
    let pieces := creationPieces path
    let above := String.ofList (['/'].intercalate pieces.dropLast)
    let tree := if pieces.length < 2 then tree else (tree.makeDirectories above).2
    match pieces.getLast?, tree.walk (startOf (.start .here) path) pieces.dropLast with
    | some name, .ok parent =>
      match (tree.entryAt parent).child? name with
      | some (.directory _) => tree
      | some (.link _) => tree
      | _ => tree.put (parent.location.child name) (.file bytes)
    | _, _ => tree

/-- Puts files and directories in order. -/
def placeAll (tree : FileTree) (files : List (String × Option Bytes)) : FileTree :=
  files.foldl (fun tree file => tree.place file.1 file.2) tree

/-- The paths of all files below the directory in which relative paths start, and of the empty
directories there with a separator behind them, in order. -/
def listing (tree : FileTree) : List String :=
  match tree.atOrigin .here with
  | .directory entries =>
    (entries.flatMap fun (name, entry) => entry.paths (String.ofList name)).mergeSort
      fun s t => !(t < s)
  | _ => []

end FileTree

end BuildHook
