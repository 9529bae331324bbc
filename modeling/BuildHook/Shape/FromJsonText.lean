import BuildHook.Decimal.Shortest
import BuildHook.Json.Sequence
import BuildHook.Json.Skip
import BuildHook.Shape.Basic

/-!
# Reading shapes from JSON text

A document is read in one pass and refused at the first place where it is no JSON text or does not
fit the shape. Members whose names the shape does not know are passed.
-/

namespace BuildHook.Json.Reader

/-- How a floating-point number appears in messages. -/
def shownFloat (x : Float) : Found := .float (Decimal.compact.show x)

/-- How a number appears in messages. -/
def foundNumber : Json → Found
  | .int n => .integer n
  | .float x => shownFloat x
  | _ => .null

/-- Refuses the value that begins with the next byte, which is of another type than expected. A
scalar is read first, so a fault inside it comes before the mismatch. -/
def unexpected {α : Type} (expected : String) : Reader α := do
  let found ← do
    match ← peek with
    | none => failAfter .expectedValue
    | some b =>
      if b = 110 then do skip; word [117, 108, 108]; pure Found.null
      else if b = 116 then do skip; word [114, 117, 101]; pure (Found.bool true)
      else if b = 102 then do skip; word [97, 108, 115, 101]; pure (Found.bool false)
      else if b = 45 then do skip; pure (foundNumber (← number true))
      else if isDigit b then pure (foundNumber (← number false))
      else if b = 34 then do skip; pure (Found.string (← stringBody))
      else if b = 91 then pure Found.sequence
      else if b = 123 then pure Found.map
      else failAfter .expectedValue
  fail (.mismatch (.invalidType found expected))

/-- Reads a text. -/
def text (expected : String) : Reader Datum := do
  match ← peekToken with
  | none => failAfter .eofInValue
  | some b => if b = 34 then do skip; return .text (← stringBody) else unexpected expected

/-- Reads a natural number. -/
def natural : Reader Datum := do
  match ← peekToken with
  | none => failAfter .eofInValue
  | some b =>
    if isDigit b then do
      match ← number false with
      | .int (.ofNat n) => return .natural n
      | other => fail (.mismatch (.invalidType (foundNumber other) "usize"))
    else unexpected "usize"

/-- Reads `null` as absent and anything else by the inner reader. -/
def optional (inner : Reader Datum) : Reader Datum := do
  if (← peekToken) = some 110 then do
    skip
    word [117, 108, 108]
    return .absent
  else inner

/-- Reads items that follow those in `read`, which stand in reverse order. -/
def items (inner : Reader Datum) : Bytes → Bool → List Datum → Reader (List Datum)
  | [], _, read => return read.reverse
  | _ :: turns, first, read => do
    if ← moreElements first then do
      let item ← inner
      items inner turns false (item :: read)
    else return read.reverse

/-- Reads an array of items. -/
def list (inner : Reader Datum) : Reader Datum := do
  match ← peekToken with
  | none => failAfter .eofInValue
  | some b =>
    if b = 91 then do
      skip
      let read ← items inner (← turns) true []
      closeList
      return .list read
    else unexpected "a sequence"

/-- Reads the fields of a record from an array; `position` counts those before. -/
def fieldsInOrder (expected : String) (position : Nat) :
    List (Field (Reader Datum)) → Reader (List Datum)
  | [] => return []
  | field :: fields => do
    let datum ←
      if ← moreElements (position == 0) then field.content
      else
        match field.atEndOfList with
        | some datum => pure datum
        | none => mismatchBefore 93 (.invalidLength position expected)
    return datum :: (← fieldsInOrder expected (position + 1) fields)

/-- Reads the members of an object into the fields of those names. -/
def fieldsByName (fields : List (Field (Reader Datum))) :
    Bytes → Bool → List (Option Datum) → Reader (List (Option Datum))
  | [], _, given => return given
  | _ :: turns, first, given => do
    if ← moreMembers first then do
      let name ← memberName
      match fields.findIdx? (·.name == name), fields.find? (·.name == name) with
      | some position, some field =>
        if (given[position]?.join).isSome then
          mismatchBefore 125 (.duplicateField name)
        else do
          colon
          let datum ← field.content
          fieldsByName fields turns false (given.set position (some datum))
      | _, _ => do
        colon
        skipValue
        fieldsByName fields turns false given
    else return given

/-- Reads a record, given by name or in order. -/
def record (title : String) (fields : List (Field (Reader Datum))) : Reader Datum := do
  match ← peekToken with
  | none => failAfter .eofInValue
  | some b =>
    if b = 91 then do
      skip
      let read ← fieldsInOrder (Shape.elementCount title fields.length) 0 fields
      closeList
      return .record read
    else if b = 123 then do
      skip
      let given ← fieldsByName fields (← turns) true (fields.map fun _ => none)
      match Shape.complete fields given with
      | .ok read => do
        closeObject
        return .record read
      | .error m => mismatchBefore 125 m
    else unexpected title

/-- Reads one of the given names, as a string or as the only member, with the value `null`, of an
object. -/
def variant (variants : List String) : Reader String := do
  let name : Reader String := do
    match ← text "variant identifier" with
    | .text s =>
      if variants.contains s then return s else fail (.mismatch (.unknownVariant s variants))
    | _ => return ""
  match ← peekToken with
  | none => failAfter .eofInValue
  | some b =>
    if b = 34 then name
    else if b = 123 then do
      skip
      match ← peekToken with
      | none => fail .eofInObject
      | some b =>
        if b = 125 then failAfter .expectedValue
        else if b ≠ 34 then failAfter .keyNotString
      let found ← name
      colon
      match ← peekToken with
      | none => failAfter .eofInValue
      | some b => if b = 110 then do skip; word [117, 108, 108] else unexpected "unit"
      match ← peekToken with
      | none => fail .eofInObject
      | some b => if b = 125 then do skip; return found else fail .expectedValue
    else failAfter .expectedValue

end BuildHook.Json.Reader

namespace BuildHook.Shape

open Json

mutual

/-- The reader of a shape. -/
def reader : Shape → Reader Datum
  | .text expected => Reader.text expected
  | .natural => Reader.natural
  | .optional inner => Reader.optional inner.reader
  | .list inner => Reader.list inner.reader
  | .record title fields => Reader.record title (fieldReaders fields)

/-- The readers of the fields of a record. -/
def fieldReaders : List (Field Shape) → List (Field (Reader Datum))
  | [] => []
  | ⟨name, fallback, trailing, content⟩ :: rest =>
      ⟨name, fallback, trailing, content.reader⟩ :: fieldReaders rest

end

/-- Reads a document of a shape from JSON text. -/
def ofJsonText (shape : Shape) (bytes : Bytes) : Except Json.Error Datum :=
  Reader.readAll (do let datum ← shape.reader; Reader.atEnd; return datum) bytes

end BuildHook.Shape
