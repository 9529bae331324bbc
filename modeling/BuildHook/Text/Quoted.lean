import BuildHook.Text.Hex
import BuildHook.Text.Printable

/-!
# Quoted text

A text shown between double quotes, for messages: quotes, backslashes and four control characters
are written as two-character escapes, every other character that cannot be shown as itself by its
code point in braces.
-/

namespace BuildHook.Text

/-- The escape of a code point, in braces and lower-case hexadecimal. -/
def codePointEscape (c : Char) : String := "\\u\x7b" ++ Hex.ofNat c.toNat ++ "\x7d"

/-- One character as it stands between the quotes. -/
def quotedChar (c : Char) : String :=
  if c = '"' then "\\\""
  else if c = '\\' then "\\\\"
  else if c = '\n' then "\\n"
  else if c = '\r' then "\\r"
  else if c = '\t' then "\\t"
  else if c.toNat = 0 then "\\0"
  else if isPrintable c then String.ofList [c]
  else codePointEscape c

/-- A text between double quotes. -/
def quoted (s : String) : String :=
  "\"" ++ String.join (s.toList.map quotedChar) ++ "\""

/-- A path between double quotes, in which apostrophes are escaped too. -/
def quotedPath (s : String) : String :=
  "\"" ++ String.join (s.toList.map fun c => if c = '\'' then "\\'" else quotedChar c) ++ "\""

end BuildHook.Text
