import BuildHook.Text.Quoted

/-!
# Mismatches

What can be wrong with a well-formed document whose content does not fit the shape that is
expected of it, and the message for each case.
-/

namespace BuildHook

/-- What was found where something else was expected. Floating-point numbers come as text, since
each format shows them in its own way. -/
inductive Found where
  | null
  | bool (b : Bool)
  | integer (n : Int)
  | float (shown : String)
  | string (s : String)
  | sequence
  | map

/-- How a message names what was found. -/
def Found.describe : Found → String
  | .null => "null"
  | .bool true => "boolean `true`"
  | .bool false => "boolean `false`"
  | .integer n => "integer `" ++ toString n ++ "`"
  | .float shown => "floating point `" ++ shown ++ "`"
  | .string s => "string " ++ Text.quoted s
  | .sequence => "sequence"
  | .map => "map"

/-- Why content does not fit a shape. -/
inductive Mismatch where
  | missingField (name : String)
  | duplicateField (name : String)
  | invalidType (found : Found) (expected : String)
  | invalidValue (found : Found) (expected : String)
  | invalidLength (length : Nat) (expected : String)
  | unknownVariant (name : String) (variants : List String)

/-- The message of a mismatch. -/
def Mismatch.message : Mismatch → String
  | .missingField name => "missing field `" ++ name ++ "`"
  | .duplicateField name => "duplicate field `" ++ name ++ "`"
  | .invalidType found expected =>
      "invalid type: " ++ found.describe ++ ", expected " ++ expected
  | .invalidValue found expected =>
      "invalid value: " ++ found.describe ++ ", expected " ++ expected
  | .invalidLength length expected =>
      "invalid length " ++ toString length ++ ", expected " ++ expected
  | .unknownVariant name variants =>
      "unknown variant `" ++ name ++ "`, expected one of "
        ++ String.intercalate ", " (variants.map fun v => "`" ++ v ++ "`")

end BuildHook
