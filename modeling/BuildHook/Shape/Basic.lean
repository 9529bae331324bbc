import BuildHook.Shape.Mismatch

/-!
# Shapes

A shape says what a document must look like to stand for a value of some type, independently of the
format of the document. What a document of that shape holds is a datum. Records may be given by
name or, as a list, in the order of their fields.
-/

namespace BuildHook

/-- The content of a document of some shape. -/
inductive Datum where
  | absent
  | text (s : String)
  | natural (n : Nat)
  | list (items : List Datum)
  | record (fields : List Datum)
  deriving Inhabited

/-- A named part of a record. A part with a fallback may be left out of a record given by name, and
off the end of a record given as a list where `trailing` allows it. -/
structure Field (α : Type) where
  name : String
  fallback : Option Datum
  trailing : Bool
  content : α

/-- What a document must look like. -/
inductive Shape where
  | text (expected : String)
  | natural
  | optional (inner : Shape)
  | list (inner : Shape)
  | record (title : String) (fields : List (Field Shape))

namespace Shape

/-- A text, called a string in messages. -/
def string : Shape := .text "a string"

/-- How a message names a record that was given as a list of the wrong length. -/
def elementCount (title : String) (n : Nat) : String :=
  title ++ " with " ++ toString n ++ (if n = 1 then " element" else " elements")

/-- The fields of a record from what was given for each of them; the first one that is missing
without a fallback makes it fail. -/
def complete {α : Type} : List (Field α) → List (Option Datum) → Except Mismatch (List Datum)
  | [], _ => .ok []
  | field :: fields, given => do
    let datum ← match given.head?.join, field.fallback with
      | some datum, _ => .ok datum
      | none, some datum => .ok datum
      | none, none => .error (.missingField field.name)
    return datum :: (← complete fields given.tail)

end Shape

namespace Field

/-- A field that must be given. -/
def required (name : String) (content : Shape) : Field Shape := ⟨name, none, false, content⟩

/-- A field that stands for a default when it is left out. -/
def defaulted (name : String) (fallback : Datum) (content : Shape) : Field Shape :=
  ⟨name, some fallback, true, content⟩

/-- A field that may be absent. -/
def maybe (name : String) (content : Shape) : Field Shape :=
  defaulted name .absent (.optional content)

/-- What a field stands for when a list ends before it. -/
def atEndOfList {α : Type} (field : Field α) : Option Datum :=
  if field.trailing then field.fallback else none

end Field

end BuildHook
