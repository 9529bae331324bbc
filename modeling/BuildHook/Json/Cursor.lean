import BuildHook.Shape.Mismatch
import BuildHook.Text.Utf8

/-!
# Reading positions in JSON text

A cursor is what is left of the text and the place reached: the line, counted from one, and the
number of bytes read on it. An error carries the place of its cause, either the place reached or
the place after the byte that was looked at.
-/

namespace BuildHook.Json

/-- Why a JSON text is refused. -/
inductive Fault where
  | eofInList
  | eofInObject
  | eofInString
  | eofInValue
  | expectedColon
  | expectedListCommaOrEnd
  | expectedObjectCommaOrEnd
  | expectedIdent
  | expectedValue
  | invalidEscape
  | invalidNumber
  | numberOutOfRange
  | invalidCodePoint
  | controlCharacter
  | keyNotString
  | loneSurrogate
  | trailingComma
  | trailingCharacters
  | endOfHexEscape
  | recursionLimit
  | mismatch (m : Mismatch)

/-- The message of a fault. -/
def Fault.message : Fault → String
  | .eofInList => "EOF while parsing a list"
  | .eofInObject => "EOF while parsing an object"
  | .eofInString => "EOF while parsing a string"
  | .eofInValue => "EOF while parsing a value"
  | .expectedColon => "expected `:`"
  | .expectedListCommaOrEnd => "expected `,` or `]`"
  | .expectedObjectCommaOrEnd => "expected `,` or `\x7d`"
  | .expectedIdent => "expected ident"
  | .expectedValue => "expected value"
  | .invalidEscape => "invalid escape"
  | .invalidNumber => "invalid number"
  | .numberOutOfRange => "number out of range"
  | .invalidCodePoint => "invalid unicode code point"
  | .controlCharacter => "control character (\\u0000-\\u001F) found while parsing a string"
  | .keyNotString => "key must be a string"
  | .loneSurrogate => "lone leading surrogate in hex escape"
  | .trailingComma => "trailing comma"
  | .trailingCharacters => "trailing characters"
  | .endOfHexEscape => "unexpected end of hex escape"
  | .recursionLimit => "recursion limit exceeded"
  | .mismatch m => m.message

/-- A line and the number of bytes before a point on it. -/
structure Place where
  line : Nat
  column : Nat

/-- Where a text begins. -/
def Place.start : Place := ⟨1, 0⟩

/-- The place behind one more byte. -/
def Place.after (p : Place) (b : UInt8) : Place :=
  if b = 10 then ⟨p.line + 1, 0⟩ else ⟨p.line, p.column + 1⟩

/-- A refused text: why, and where. -/
structure Error where
  fault : Fault
  place : Place

/-- The message of an error, with its place. -/
def Error.message (e : Error) : String :=
  e.fault.message ++ " at line " ++ toString e.place.line ++ " column " ++ toString e.place.column

/-- What is left of a text, and where it begins. -/
structure Cursor where
  rest : Bytes
  place : Place

/-- The cursor at the front of a text. -/
def Cursor.start (bytes : Bytes) : Cursor := ⟨bytes, .start⟩

/-- The cursor behind the next byte, if there is one. -/
def Cursor.advance (c : Cursor) : Cursor :=
  match c.rest with
  | [] => c
  | b :: bs => ⟨bs, c.place.after b⟩

/-- A step of reading, which may move the cursor or refuse the text. -/
abbrev Reader (α : Type) := StateT Cursor (Except Error) α

namespace Reader

/-- The next byte, which is left in place. -/
def peek : Reader (Option UInt8) := do return (← get).rest.head?

/-- Passes the next byte. -/
def skip : Reader Unit := modify Cursor.advance

/-- One turn for each byte that is left, and one more. A loop that passes a byte in every turn ends
within them. -/
def turns : Reader Bytes := do return 0 :: (← get).rest

/-- Takes the next byte. -/
def next : Reader (Option UInt8) := do
  let b ← peek
  skip
  return b

/-- Refuses the text at the place reached. -/
def fail {α : Type} (fault : Fault) : Reader α := do throw ⟨fault, (← get).place⟩

/-- Refuses the text behind the byte that is looked at. -/
def failAfter {α : Type} (fault : Fault) : Reader α := do throw ⟨fault, (← get).advance.place⟩

/-- Blank, tab, line feed and carriage return may stand between tokens. -/
def isSpace (b : UInt8) : Bool := b == 32 || b == 10 || b == 9 || b == 13

/-- Passes the blanks in front of a token. -/
def passSpaces (place : Place) : Bytes → Cursor
  | [] => ⟨[], place⟩
  | b :: bs => if isSpace b then passSpaces (place.after b) bs else ⟨b :: bs, place⟩

/-- Passes blanks and looks at the byte behind them. -/
def peekToken : Reader (Option UInt8) := do
  modify fun c => passSpaces c.place c.rest
  peek

/-- Takes the given bytes one by one. -/
def word : Bytes → Reader Unit
  | [] => return ()
  | b :: bs => do
    match ← next with
    | none => fail .eofInValue
    | some found => if found = b then word bs else fail .expectedIdent

/-- Runs a reader on a whole text. -/
def readAll {α : Type} (reader : Reader α) (bytes : Bytes) : Except Error α :=
  match reader.run (Cursor.start bytes) with
  | .ok (value, _) => .ok value
  | .error e => .error e

/-- Only blanks may follow a document. -/
def atEnd : Reader Unit := do
  match ← peekToken with
  | none => return ()
  | some _ => failAfter .trailingCharacters

end Reader

end BuildHook.Json
