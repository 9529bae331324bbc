import BuildHook.Json.NumberReader
import BuildHook.Json.Sequence

/-!
# Reading JSON values

A document is one value between blanks. Brackets may be nested up to a limit.
-/

namespace BuildHook.Json

namespace Reader

mutual

/-- Reads a value in which brackets may be nested below `depth`. Each turn passes at least one byte
or ends a list, so twice the length of the text is enough turns. -/
def value : Nat → Nat → Reader Json
  | 0, _ => failAfter .recursionLimit
  | turns + 1, depth => do
    match ← peekToken with
    | none => failAfter .eofInValue
    | some b =>
      if b = 110 then do skip; word [117, 108, 108]; return .null
      else if b = 116 then do skip; word [114, 117, 101]; return .bool true
      else if b = 102 then do skip; word [97, 108, 115, 101]; return .bool false
      else if b = 45 then do skip; number true
      else if isDigit b then number false
      else if b = 34 then do skip; return .string (← stringBody)
      else if b = 91 then
        match depth with
        | 0 => failAfter .recursionLimit
        | depth + 1 => do
          skip
          let elements ← elements turns depth true []
          closeList
          return .array elements
      else if b = 123 then
        match depth with
        | 0 => failAfter .recursionLimit
        | depth + 1 => do
          skip
          let members ← members turns depth true []
          closeObject
          return .object members
      else failAfter .expectedValue

/-- Reads the elements that follow those in `read`, which stand in reverse order. -/
def elements : Nat → Nat → Bool → List Json → Reader (List Json)
  | 0, _, _, _ => failAfter .recursionLimit
  | turns + 1, depth, first, read => do
    if ← moreElements first then do
      let v ← value turns depth
      elements turns depth false (v :: read)
    else return read.reverse

/-- Reads the members that follow those in `read`, which stand in reverse order. -/
def members : Nat → Nat → Bool → List (String × Json) → Reader (List (String × Json))
  | 0, _, _, _ => failAfter .recursionLimit
  | turns + 1, depth, first, read => do
    if ← moreMembers first then do
      let name ← memberName
      colon
      let v ← value turns depth
      members turns depth false ((name, v) :: read)
    else return read.reverse

end

/-- A whole document. -/
def document (depth : Nat) : Reader Json := do
  let v ← value (2 * (← get).rest.length + 2) depth
  atEnd
  return v

end Reader

/-- How deep brackets may be nested in a document. -/
def depthLimit : Nat := 127

/-- Reads a document. -/
def parse (bytes : Bytes) : Except Error Json := (Reader.document depthLimit).readAll bytes

end BuildHook.Json
