import BuildHook.Text.Hex

/-!
# Escapes in URLs

A byte that may not stand in some part of a URL is written as `%` with two upper-case hexadecimal
digits. Each part has its own set of such characters; control characters and everything outside
ASCII belong to all of them.
-/

namespace BuildHook.Url

/-- A hexadecimal digit in upper case. -/
def upperDigit (n : Nat) : Char := (Hex.digit n).toUpper

/-- The escape of a byte. -/
def escapeByte (b : UInt8) : List Char :=
  ['%', upperDigit (b.toNat / 16), upperDigit (b.toNat % 16)]

/-- Whether a character is escaped in all parts. -/
def isForeign (c : Char) : Bool := c.toNat < 0x20 || 0x7F ≤ c.toNat

/-- A text in which the foreign characters and those of a set are escaped. -/
def escape (set : List Char) (s : List Char) : List Char :=
  s.flatMap fun c =>
    if isForeign c || set.contains c then (Utf8.encodeChar c).flatMap escapeByte else [c]

/-- What is escaped in a fragment. -/
def fragmentSet : List Char := [' ', '"', '<', '>', '\x60']

/-- What is escaped in a path. -/
def pathSet : List Char := fragmentSet ++ ['#', '?', '\x7b', '\x7d']

/-- What is escaped in user information. -/
def userSet : List Char := pathSet ++ ['/', ':', ';', '=', '@', '[', '\\', ']', '^', '|']

/-- What cannot stand in a host of a scheme that needs none. -/
def outsiders : List Char := "\x00\t\n\r #/:<>?@[\\]^|".toList

/-- What is escaped in a query of a special scheme. -/
def querySet : List Char := [' ', '"', '#', '<', '>', '\'']

end BuildHook.Url
