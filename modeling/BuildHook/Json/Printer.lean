import BuildHook.Decimal.Shortest
import BuildHook.Json.Value

/-!
# JSON text

The compact text of a value: no blanks, members in their order, and in strings only the quote, the
backslash and characters below U+0020 are escaped.
-/

namespace BuildHook.Json

/-- The lower-case hexadecimal digit of a value below sixteen. -/
def hexDigit (n : Nat) : Char := if n < 10 then Char.ofNat (48 + n) else Char.ofNat (87 + n)

/-- One character inside a string literal. -/
def escaped (c : Char) : List Char :=
  if c = '"' then ['\\', '"']
  else if c = '\\' then ['\\', '\\']
  else if c.toNat < 0x20 then
    if c.toNat = 8 then ['\\', 'b']
    else if c.toNat = 9 then ['\\', 't']
    else if c.toNat = 10 then ['\\', 'n']
    else if c.toNat = 12 then ['\\', 'f']
    else if c.toNat = 13 then ['\\', 'r']
    else ['\\', 'u', '0', '0', hexDigit (c.toNat / 16), hexDigit (c.toNat % 16)]
  else [c]

/-- A string literal. -/
def literal (s : List Char) : List Char := '"' :: (s.flatMap escaped ++ ['"'])

/-- The decimal text of an integer. -/
def integerText (n : Int) : List Char :=
  match n with
  | .ofNat m => Nat.toDigits 10 m
  | .negSucc m => '-' :: Nat.toDigits 10 (m + 1)

mutual

/-- The characters of a value. -/
def chars : Json → List Char
  | .null => ['n', 'u', 'l', 'l']
  | .bool true => ['t', 'r', 'u', 'e']
  | .bool false => ['f', 'a', 'l', 's', 'e']
  | .int n => integerText n
  | .float x => (Decimal.compact.show x).toList
  | .string s => literal s.toList
  | .array [] => ['[', ']']
  | .array (first :: rest) => '[' :: (chars first ++ elementChars rest)
  | .object [] => ['{', '}']
  | .object ((name, value) :: rest) =>
      '{' :: (literal name.toList ++ ':' :: (chars value ++ memberChars rest))

/-- The elements after the first one and the closing bracket. -/
def elementChars : List Json → List Char
  | [] => [']']
  | value :: rest => ',' :: (chars value ++ elementChars rest)

/-- The members after the first one and the closing brace. -/
def memberChars : List (String × Json) → List Char
  | [] => ['}']
  | (name, value) :: rest =>
      ',' :: (literal name.toList ++ ':' :: (chars value ++ memberChars rest))

end

/-- The compact text of a value. -/
def render (value : Json) : String := String.ofList (chars value)

end BuildHook.Json
