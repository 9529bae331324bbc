/-!
# JSON values

Numbers keep whether they were written as an integer that fits 64 bits. An object is its list of
members in order, repeated names included; `canonical` sorts the members by name and keeps the last
of each name.
-/

namespace BuildHook

/-- A JSON value. -/
inductive Json where
  | null
  | bool (b : Bool)
  | int (n : Int)
  | float (x : Float)
  | string (s : String)
  | array (elements : List Json)
  | object (members : List (String × Json))
  deriving Inhabited

namespace Json

/-- Puts a member into a list that is sorted by name, over an earlier one of the same name. -/
def insertMember (name : String) (value : Json) : List (String × Json) → List (String × Json)
  | [] => [(name, value)]
  | (other, old) :: rest =>
      if name = other then (name, value) :: rest
      else if name < other then (name, value) :: (other, old) :: rest
      else (other, old) :: insertMember name value rest

mutual

/-- The same value with every object's members sorted by name, the last of each name kept. -/
def canonical : Json → Json
  | .array elements => .array (canonicalElements elements)
  | .object members => .object (canonicalMembers [] members)
  | .null => .null
  | .bool b => .bool b
  | .int n => .int n
  | .float x => .float x
  | .string s => .string s

/-- `canonical` for each element. -/
def canonicalElements : List Json → List Json
  | [] => []
  | value :: rest => canonical value :: canonicalElements rest

/-- Adds the canonical form of each member to a sorted list. -/
def canonicalMembers (sorted : List (String × Json)) :
    List (String × Json) → List (String × Json)
  | [] => sorted
  | (name, value) :: rest => canonicalMembers (insertMember name (canonical value) sorted) rest

end

/-- The last member of a name. -/
def member? (name : String) : List (String × Json) → Option Json
  | [] => none
  | (other, value) :: rest =>
      match member? name rest with
      | some later => some later
      | none => if other = name then some value else none

/-- The last member of a name, if the value is an object. -/
def get? (value : Json) (name : String) : Option Json :=
  match value with
  | .object members => member? name members
  | _ => none

end Json

end BuildHook
