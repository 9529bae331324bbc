/-!
# Lines and blanks

A line ends at a line feed, and a carriage return right before it belongs to the line end. What
follows the last line feed is a line if it is not empty. Blanks are the characters with the
White_Space property.
-/

namespace BuildHook.Text

/-- The White_Space property of Unicode. -/
def isBlank (c : Char) : Bool :=
  let n := c.toNat
  (9 ≤ n && n ≤ 13) || n == 0x20 || n == 0x85 || n == 0xA0 || n == 0x1680
    || (0x2000 ≤ n && n ≤ 0x200A) || n == 0x2028 || n == 0x2029 || n == 0x202F || n == 0x205F
    || n == 0x3000

/-- A text without the blanks at either end. -/
def trim (s : List Char) : List Char :=
  ((s.dropWhile isBlank).reverse.dropWhile isBlank).reverse

/-- Closes a line that was read in reverse order and ended at a line feed. -/
def closeLine : List Char → List Char
  | '\r' :: line => line.reverse
  | line => line.reverse

/-- The lines of a text, where `line` holds what was read of the first one, in reverse order. -/
def linesFrom (line : List Char) : List Char → List (List Char)
  | [] => if line.isEmpty then [] else [line.reverse]
  | '\n' :: rest => closeLine line :: linesFrom [] rest
  | c :: rest => linesFrom (c :: line) rest

/-- The lines of a text without their ends. -/
def lines (s : List Char) : List (List Char) := linesFrom [] s

/-- Whether one text occurs inside another. -/
def occursIn (part : List Char) : List Char → Bool
  | [] => part.isEmpty
  | c :: rest => part.isPrefixOf (c :: rest) || occursIn part rest

end BuildHook.Text
