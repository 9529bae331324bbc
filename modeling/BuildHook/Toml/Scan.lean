/-!
# Scanning

Reading from the front of a text. A scanner either fails or takes characters off and returns what
they mean; alternatives begin at the same place.
-/

namespace BuildHook.Toml

/-- A scanner. -/
abbrev Scan := StateT (List Char) Option

namespace Scan

/-- The next character, which stays. -/
def peek? : Scan (Option Char) := do return (← get).head?

/-- Takes the next character. -/
def next : Scan Char := do
  match ← get with
  | [] => failure
  | c :: rest => do
    set rest
    return c

/-- Takes one given character. -/
def char (c : Char) : Scan Unit := do
  if (← next) = c then return () else failure

/-- Takes a given text, if it is next. -/
def text? (s : String) : Scan Bool := do
  match s.toList.isPrefixOf? (← get) with
  | some rest => do
    set rest
    return true
  | none => return false

/-- Takes a given text. -/
def text (s : String) : Scan Unit := do
  if ← text? s then return () else failure

/-- Takes all next characters of a class. -/
def takeWhile (p : Char → Bool) : Scan (List Char) := do
  let (front, rest) := (← get).span p
  set rest
  return front

/-- One turn for each character that is left, and one more. A loop that takes a character in every
turn ends within them. -/
def turns : Scan (List Char) := do return ' ' :: (← get)

/-- Blanks within a line. -/
def isSpace (c : Char) : Bool := c = ' ' || c = '\t'

/-- Passes blanks within a line. -/
def spaces : Scan Unit := do
  let _ ← takeWhile isSpace

/-- Takes a line end: a line feed, or a carriage return with one. -/
def lineEnd? : Scan Bool := do
  if ← text? "\n" then return true else text? "\r\n"

/-- Characters outside ASCII. -/
def isWide (c : Char) : Bool := 0x80 ≤ c.toNat

/-- Characters that may stand in a comment. -/
def isComment (c : Char) : Bool := c = '\t' || (0x20 ≤ c.toNat && c.toNat ≠ 0x7F)

/-- Passes a comment up to the end of its line, if one is next. -/
def comment : Scan Unit := do
  if (← peek?) = some '#' then
    let _ ← takeWhile isComment

/-- Passes blanks and a comment up to the end of the line or of the text. -/
def endOfLine : Scan Unit := do
  spaces
  comment
  if (← get).isEmpty then return ()
  else if ← lineEnd? then return ()
  else failure

/-- What follows blanks, line ends and comments; `inComment` tells whether a comment has begun. -/
def afterGap (inComment : Bool) : List Char → List Char
  | [] => []
  | '\r' :: '\n' :: rest => afterGap false rest
  | c :: rest =>
    if c = '\n' then afterGap false rest
    else if inComment then if isComment c then afterGap true rest else c :: rest
    else if isSpace c then afterGap false rest
    else if c = '#' then afterGap true rest
    else c :: rest

/-- Passes blanks, line ends and comments. -/
def betweenLines : Scan Unit := do set (afterGap false (← get))

end Scan

end BuildHook.Toml
