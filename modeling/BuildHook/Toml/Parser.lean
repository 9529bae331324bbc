import BuildHook.Toml.Document
import BuildHook.Toml.Number
import BuildHook.Toml.Text

/-!
# Reading TOML

A document stands for an object: tables are objects, arrays and arrays of tables are arrays, and a
date or time is an object that holds its text. Values are nested to a limited depth.
-/

namespace BuildHook.Toml

namespace Scan

/-- Depth that no nesting of values and no dotted key reaches. -/
def depthLimit : Nat := 80

/-- Characters of keys without quotation marks. -/
def isBare (c : Char) : Bool := c.isAlphanum || c = '_' || c = '-'

/-- Takes one part of a key. -/
def keyPart : Scan String := do
  match ← peek? with
  | some '"' | some '\'' => lineString
  | _ => do
    let name ← takeWhile isBare
    if name.isEmpty then failure else return String.ofList name

/-- Takes parts of a key with dots between them. -/
def keyParts : Nat → Scan (List String)
  | 0 => failure
  | turns + 1 => do
    spaces
    let part ← keyPart
    spaces
    if ← text? "." then return part :: (← keyParts turns) else return [part]

/-- Takes a key. -/
def key : Scan (List String) := do
  let parts ← keyParts depthLimit
  if parts.length < depthLimit then return parts else failure

/-- Takes the rest of an array. -/
def arrayRest (value : Scan Json) : List Char → Scan (List Json)
  | [] => failure
  | _ :: turns => do
    betweenLines
    if ← text? "]" then return []
    let element ← value
    betweenLines
    match ← next with
    | ',' => return element :: (← arrayRest value turns)
    | ']' => return [element]
    | _ => failure

/-- Takes a key with its value. -/
def keyValue (value : Scan Json) : Scan (List String × Json) := do
  let parts ← key
  char '='
  spaces
  return (parts, ← value)

/-- Takes the rest of an inline table. -/
def inlineRest (value : Scan Json) : List Char → Members → Scan Members
  | [], _ => failure
  | _ :: turns, members => do
    let (parts, content) ← keyValue value
    spaces
    let members ← (members.define true parts content : Option Members)
    match ← next with
    | ',' => inlineRest value turns members
    | '}' => return members
    | _ => failure

/-- Takes a value in which no other is nested. -/
def scalar : Scan Json := do
  match ← peek? with
  | some '"' | some '\'' => return .string (← string)
  | some 't' => do
    text "true"
    return .bool true
  | some 'f' => do
    text "false"
    return .bool false
  | _ => numberOrDate

/-- Takes a value that may have values nested in it to a given depth. -/
def value : Nat → Scan Json
  | 0 => scalar
  | depth + 1 => do
    match ← peek? with
    | some '[' => do
      let _ ← next
      return .array (← arrayRest (value depth) (← turns))
    | some '{' => do
      let _ ← next
      spaces
      if ← text? "\x7d" then return .object []
      else return .object (Item.membersToJson (← inlineRest (value depth) (← turns) []))
    | _ => scalar

/-- Takes a line, from its first character that is not blank. -/
def line (document : Document) : Scan Document := do
  match ← peek? with
  | some '[' => do
    let _ ← next
    if ← text? "[" then do
      let path ← key
      text "]]"
      endOfLine
      document.pushTable path
    else do
      let path ← key
      char ']'
      endOfLine
      document.openTable path
  | some '#' | some '\n' | some '\r' => do
    endOfLine
    return document
  | _ => do
    let (parts, content) ← keyValue (value (depthLimit - 1))
    endOfLine
    document.define parts content

/-- Takes all lines. -/
def lines : List Char → Document → Scan Document
  | [], document => return document
  | _ :: turns, document => do
    spaces
    if (← get).isEmpty then return document
    else lines turns (← line document)

end Scan

/-- The object that a text stands for, if the text is a TOML document. A byte order mark in front
counts for nothing. -/
def parse? (s : String) : Option Json :=
  let chars := match s.toList with
    | '\uFEFF' :: rest => rest
    | chars => chars
  let scan : Scan Document := do Scan.lines (← Scan.turns) .empty
  (scan.run chars).map fun (document, _) => document.toJson

end BuildHook.Toml
