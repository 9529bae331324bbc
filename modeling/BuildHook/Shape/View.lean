import BuildHook.Shape.Basic

/-!
# Parts of a datum

Total access to the content of a datum. Where a datum is not of the kind that is asked for, the
answer is empty; for a datum that was read by a shape this does not happen.
-/

namespace BuildHook.Datum

/-- The text. -/
def asText : Datum → String
  | .text s => s
  | _ => ""

/-- The number. -/
def asNatural : Datum → Nat
  | .natural n => n
  | _ => 0

/-- The items of a list. -/
def asList : Datum → List Datum
  | .list items => items
  | _ => []

/-- What a part holds, unless it is absent. -/
def asOption {α : Type} (view : Datum → α) : Datum → Option α
  | .absent => none
  | datum => some (view datum)

/-- The field at a position of a record. -/
def field (datum : Datum) (position : Nat) : Datum :=
  match datum with
  | .record fields => fields.getD position .absent
  | _ => .absent

/-- The text of a field. -/
def textField (datum : Datum) (position : Nat) : String := (datum.field position).asText

/-- The text of a field that may be absent. -/
def maybeText (datum : Datum) (position : Nat) : Option String :=
  (datum.field position).asOption asText

end BuildHook.Datum
