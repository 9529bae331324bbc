import BuildHook.Json.Value
import BuildHook.Shape.Basic

/-!
# Reading shapes from trees

A document that has been read into a tree of values is checked against a shape. Members whose names
the shape does not know, and list items behind the last field of a record, are passed over.
-/

namespace BuildHook.Shape

/-- How a value of a tree appears in messages. -/
def foundIn (shownFloat : Float → String) : Json → Found
  | .null => .null
  | .bool b => .bool b
  | .int n => .integer n
  | .float x => .float (shownFloat x)
  | .string s => .string s
  | .array _ => .sequence
  | .object _ => .map

/-- What reads a tree. -/
abbrev TreeReader := Json → Except Mismatch Datum

/-- The fields of a record from list items; `position` counts the items before. -/
def itemsInOrder (expected : String) (position : Nat) :
    List (Field TreeReader) → List Json → Except Mismatch (List Datum)
  | [], _ => .ok []
  | field :: fields, given => do
    let datum ← match given, field.atEndOfList with
      | value :: _, _ => field.content value
      | [], some datum => .ok datum
      | [], none => .error (.invalidLength position expected)
    return datum :: (← itemsInOrder expected (position + 1) fields given.tail)

/-- What members give for the fields of those names, on top of what was given before. -/
def membersByName (fields : List (Field TreeReader)) :
    List (String × Json) → List (Option Datum) → Except Mismatch (List (Option Datum))
  | [], given => .ok given
  | (name, value) :: rest, given => do
    match fields.findIdx? (·.name == name), fields.find? (·.name == name) with
    | some position, some field =>
      if (given[position]?.join).isSome then .error (.duplicateField name)
      else do
        let datum ← field.content value
        membersByName fields rest (given.set position (some datum))
    | _, _ => membersByName fields rest given

mutual

/-- The reader of a shape. -/
def treeReader (shownFloat : Float → String) : Shape → TreeReader
  | .text expected => fun
    | .string s => .ok (.text s)
    | value => .error (.invalidType (foundIn shownFloat value) expected)
  | .natural => fun
    | .int n =>
      if n < 0 then .error (.invalidValue (.integer n) "usize") else .ok (.natural n.toNat)
    | value => .error (.invalidType (foundIn shownFloat value) "usize")
  | .optional inner => fun
    | .null => .ok .absent
    | value => inner.treeReader shownFloat value
  | .list inner => fun
    | .array items => do return .list (← items.mapM (inner.treeReader shownFloat))
    | value => .error (.invalidType (foundIn shownFloat value) "a sequence")
  | .record title fields => fun
    | .array items => do
      let readers := fieldTreeReaders shownFloat fields
      return .record (← itemsInOrder (elementCount title readers.length) 0 readers items)
    | .object members => do
      let readers := fieldTreeReaders shownFloat fields
      let given ← membersByName readers members (readers.map fun _ => none)
      return .record (← complete readers given)
    | value => .error (.invalidType (foundIn shownFloat value) title)

/-- The readers of the fields of a record. -/
def fieldTreeReaders (shownFloat : Float → String) :
    List (Field Shape) → List (Field TreeReader)
  | [] => []
  | ⟨name, fallback, trailing, content⟩ :: rest =>
      ⟨name, fallback, trailing, content.treeReader shownFloat⟩
        :: fieldTreeReaders shownFloat rest

end

/-- Reads a document of a shape from a tree. `shownFloat` shows floating-point numbers in
messages. -/
def ofTree (shownFloat : Float → String) (shape : Shape) (tree : Json) : Except Mismatch Datum :=
  shape.treeReader shownFloat tree

end BuildHook.Shape
