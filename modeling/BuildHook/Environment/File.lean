import BuildHook.Environment.Basic
import BuildHook.Text.Alphanumeric
import BuildHook.Text.Lines
import BuildHook.Text.Split
import BuildHook.Text.Utf8

/-!
# Environment files

A file of lines `NAME=value` that set variables which are not set yet. Values can be quoted, hold
escapes and refer to variables by `$`; a comment begins with `#`. The first line that cannot be read
ends the file, and what stands before it remains in force.
-/

namespace BuildHook.Environment

/-- What the next character of a value means. -/
inductive Step where
  | text
  | escape
  | reference
  | bracedReference
  | gap
  deriving DecidableEq

/-- A value that is being read. The parts read so far stand in reverse order. -/
structure Reading where
  written : List Char
  name : List Char
  inSingle : Bool
  inDouble : Bool
  step : Step

namespace Reading

/-- Before the first character. -/
def start : Reading := ⟨[], [], false, false, .text⟩

/-- Adds a character to the value. -/
def write (r : Reading) (c : Char) : Reading := { r with written := c :: r.written }

/-- Adds the value of the variable that was named. -/
def refer (environment : Environment) (r : Reading) : Reading :=
  let value := (environment.get? (String.ofList r.name.reverse)).getD ""
  { r with written := value.toList.reverse ++ r.written, name := [], step := .text }

/-- Adds a character to the name of a variable. -/
def extendName (r : Reading) (c : Char) : Reading := { r with name := c :: r.name }

/-- The value, if it is complete. -/
def finish? (environment : Environment) (r : Reading) : Option String :=
  if r.step = .bracedReference || r.inSingle || r.inDouble then none
  else some (String.ofList (r.refer environment).written.reverse)

/-- The character that an escape stands for. -/
def escaped? (c : Char) : Option Char :=
  if c = 'n' then some '\n'
  else if c = '\\' || c = '\'' || c = '"' || c = '$' || c = ' ' then some c
  else none

/-- Takes a character of a value outside of gaps, escapes and single quotation marks. A name behind
`$` consists of letters and numbers, and in braces of anything. -/
def take (environment : Environment) (r : Reading) (c : Char) : Reading :=
  match r.step with
  | .reference =>
    if Text.isAlphanumeric c then r.extendName c
    else if c = '{' && r.name.isEmpty then { r with step := .bracedReference }
    else if c = '$' then { r.refer environment with step := .reference }
    else (r.refer environment).write c
  | .bracedReference => if c = '}' then r.refer environment else r.extendName c
  | _ =>
    if c = '$' then { r with step := .reference }
    else if c = '\\' then { r with step := .escape }
    else if c = '"' then { r with inDouble := !r.inDouble }
    else if r.inDouble then r.write c
    else if c = '\'' then { r with inSingle := true }
    else if c = ' ' || c = '\t' then { r with step := .gap }
    else r.write c

/-- Reads the rest of a value. -/
def rest? (environment : Environment) (r : Reading) : List Char → Option String
  | [] => r.finish? environment
  | c :: cs =>
    if r.step = .gap then
      if c = ' ' || c = '\t' then r.rest? environment cs
      else if c = '#' then r.finish? environment
      else none
    else if r.step = .escape then do
      let meant ← escaped? c
      ({ r with step := .text }.write meant).rest? environment cs
    else if r.inSingle then
      if c = '\'' then { r with inSingle := false }.rest? environment cs
      else (r.write c).rest? environment cs
    else (r.take environment c).rest? environment cs

end Reading

/-- Whether a character may begin a name. -/
def isKeyStart (c : Char) : Bool := c.isAlpha || c = '_'

/-- Whether a character may stand inside a name. -/
def isKeyChar (c : Char) : Bool := c.isAlphanum || c = '_' || c = '.'

/-- Takes a name off the front, with the blanks behind it. -/
def key? (s : List Char) : Option (String × List Char) :=
  if s.head?.any isKeyStart then
    some (String.ofList (s.takeWhile isKeyChar), (s.dropWhile isKeyChar).dropWhile Text.isBlank)
  else none

/-- Takes the equals sign off the front. -/
def afterEquals? : List Char → Option (List Char)
  | '=' :: rest => some rest
  | _ => none

/-- Takes a name and the equals sign off the front. The word `export` may stand before the name, or
be the name. -/
def assignment? (s : List Char) : Option (String × List Char) := do
  let (key, rest) ← key? s
  match afterEquals? rest with
  | some rest => return (key, rest)
  | none =>
    if key = "export" then do
      let (key, rest) ← key? rest
      return (key, ← afterEquals? rest)
    else none

/-- The variable that a line sets. There is none in a blank line or a comment, and `none` at the
outside means that the line cannot be read. -/
def ofLine? (environment : Environment) (line : List Char) :
    Option (Option (String × String)) :=
  let line := Text.trim line
  if line.isEmpty || line.head? = some '#' then some none
  else do
    let (key, rest) ← assignment? line
    let rest := rest.dropWhile Text.isBlank
    if rest.isEmpty || rest.head? = some '#' then return some (key, "")
    else return some (key, ← Reading.start.rest? environment rest)

/-- Sets the variables of lines, up to the first line that cannot be read. -/
def loadLines (environment : Environment) : List Bytes → Environment
  | [] => environment
  | line :: lines =>
    match (Utf8.decode? line).bind fun text => environment.ofLine? text.toList with
    | none => environment
    | some none => environment.loadLines lines
    | some (some (key, value)) => (environment.setDefault key value).loadLines lines

/-- Sets the variables of a file. -/
def loadFile (environment : Environment) (content : Bytes) : Environment :=
  environment.loadLines (Text.splitAll 10 content)

end BuildHook.Environment
