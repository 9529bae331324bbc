import BuildHook.Json.StringReader

/-!
# Elements and members

The punctuation of arrays and objects: where the next element or member begins, and how a bracket is
closed.
-/

namespace BuildHook.Json.Reader

/-- Whether another element follows. A comma must stand before every element but the first, and not
before the closing bracket. -/
def moreElements (first : Bool) : Reader Bool := do
  match ← peekToken with
  | none => failAfter .eofInList
  | some b =>
    if b = 93 then return false
    else if first then return true
    else if b = 44 then do
      skip
      match ← peekToken with
      | none => failAfter .eofInValue
      | some b => if b = 93 then failAfter .trailingComma else return true
    else failAfter .expectedListCommaOrEnd

/-- Whether another member follows, whose name must be a string literal. -/
def moreMembers (first : Bool) : Reader Bool := do
  match ← peekToken with
  | none => failAfter .eofInObject
  | some b =>
    if b = 125 then return false
    else if first then if b = 34 then return true else failAfter .keyNotString
    else if b = 44 then do
      skip
      match ← peekToken with
      | none => failAfter .eofInValue
      | some b =>
        if b = 34 then return true
        else if b = 125 then failAfter .trailingComma
        else failAfter .keyNotString
    else failAfter .expectedObjectCommaOrEnd

/-- The name of a member whose opening quote is next. -/
def memberName : Reader String := do
  skip
  stringBody

/-- Passes the colon between a name and its value. -/
def colon : Reader Unit := do
  match ← peekToken with
  | none => failAfter .eofInObject
  | some b => if b = 58 then skip else failAfter .expectedColon

/-- Passes the end of an array. -/
def closeList : Reader Unit := do
  match ← peekToken with
  | none => failAfter .eofInList
  | some b =>
    if b = 93 then skip
    else if b = 44 then do
      skip
      match ← peekToken with
      | some 93 => failAfter .trailingComma
      | _ => failAfter .trailingCharacters
    else failAfter .trailingCharacters

/-- Passes the end of an object. -/
def closeObject : Reader Unit := do
  match ← peekToken with
  | none => failAfter .eofInObject
  | some b =>
    if b = 125 then skip
    else if b = 44 then failAfter .trailingComma
    else failAfter .trailingCharacters

/-- Refuses the content of a bracket: the place is behind the closing byte if that is what comes
next, else where the next token begins. -/
def mismatchBefore {α : Type} (closing : UInt8) (m : Mismatch) : Reader α := do
  if (← peekToken) = some closing then skip
  fail (.mismatch m)

end BuildHook.Json.Reader
