import BuildHook.Json.NumberReader
import BuildHook.Json.StringReader

/-!
# Passing values

A value that nobody asks for is passed without building it, whatever its depth: the brackets that
are open stand on a stack, and one loop passes one token after another.
-/

namespace BuildHook.Json

/-- An open bracket. -/
inductive Bracket where
  | list
  | object
  deriving DecidableEq

/-- The byte that closes a bracket. -/
def Bracket.closing : Bracket → UInt8
  | .list => 93
  | .object => 125

/-- The fault of a text that ends inside a bracket. -/
def Bracket.eof : Bracket → Fault
  | .list => .eofInList
  | .object => .eofInObject

/-- The fault of a value that neither a comma nor the closing byte follows. -/
def Bracket.expected : Bracket → Fault
  | .list => .expectedListCommaOrEnd
  | .object => .expectedObjectCommaOrEnd

namespace Reader

/-- Passes a scalar, or the opening of a bracket, which is returned. -/
def skipFront : Reader (Option Bracket) := do
  match ← peekToken with
  | none => failAfter .eofInValue
  | some b =>
    if b = 110 then do skip; word [117, 108, 108]; return none
    else if b = 116 then do skip; word [114, 117, 101]; return none
    else if b = 102 then do skip; word [97, 108, 115, 101]; return none
    else if b = 45 then do skip; skipNumber; return none
    else if isDigit b then do skipNumber; return none
    else if b = 34 then do skip; skipStringBody; return none
    else if b = 91 then do skip; return some .list
    else if b = 123 then do skip; return some .object
    else failAfter .expectedValue

/-- Passes the name of a member and its colon. -/
def skipName : Reader Unit := do
  match ← peekToken with
  | none => failAfter .eofInObject
  | some b =>
    if b = 34 then do
      skip
      skipStringBody
      match ← peekToken with
      | none => failAfter .eofInObject
      | some b => if b = 58 then skip else failAfter .expectedColon
    else failAfter .keyNotString

/-- Passes closing brackets, and a comma behind a value, up to where the next value of the
innermost open bracket begins. Returns the brackets that are still open; none means that the
outermost value is complete. -/
def skipClosings (afterValue : Bool) : List Bracket → Reader (List Bracket)
  | [] => return []
  | bracket :: outer => do
    match ← peekToken with
    | none => failAfter bracket.eof
    | some b =>
      if b = 44 && afterValue then do skip; return bracket :: outer
      else if b = bracket.closing then do skip; skipClosings true outer
      else if afterValue then failAfter bracket.expected
      else return bracket :: outer

/-- Passes values until no bracket is open. Each turn passes at least one byte. -/
def skipNested : Bytes → List Bracket → Reader Unit
  | [], _ => return ()
  | _ :: turns, brackets => do
    let opened ← skipFront
    let inner := match opened with
      | some bracket => bracket :: brackets
      | none => brackets
    match ← skipClosings opened.isNone inner with
    | [] => return ()
    | bracket :: outer => do
      if bracket = .object then skipName
      skipNested turns (bracket :: outer)

/-- Passes one value. -/
def skipValue : Reader Unit := do
  skipNested (← turns) []

end Reader

end BuildHook.Json
