import BuildHook.Text.Composed
import BuildHook.Url.Domain.Direction
import BuildHook.Url.Domain.Joining
import BuildHook.Url.Domain.Mapping
import BuildHook.Url.Punycode

/-!
# Domains

A domain is a list of labels with dots between them. Each has a meaning, which may hold letters of
all scripts, and an ASCII form, which stands for it on the wire. A domain is read by replacing what
only stands for other characters, composing the result, and checking each label and their directions.
-/

namespace BuildHook.Url

/-- A label of a domain. -/
structure Label where
  form : List Char
  meaning : List Char

/-- Whether all characters belong to ASCII. -/
def isAscii (s : List Char) : Bool := s.all (·.toNat < 0x80)

namespace Label

/-- What the ASCII form of a label with other characters begins with. -/
def mark : List Char := ['x', 'n', '-', '-']

/-- The longest meaning, in characters, of a label with characters outside ASCII. -/
def maxMeaning : Nat := 1000

/-- The longest ASCII form, without its mark, that is read. -/
def maxForm : Nat := 2000

/-- Whether a text is written in its final characters, and composed. -/
def isFinal (s : List Char) : Bool :=
  s.all (fun c => substitute? c == some [c]) && Text.composed s == s

/-- Whether a meaning that is not all ASCII is short enough, begins with no mark, and has joiners only
where they matter. -/
def isSound (meaning : List Char) : Bool :=
  meaning.length ≤ maxMeaning && !meaning.head?.any Text.isMark && joinersMatter [] meaning

/-- The meaning of an ASCII form without its mark. ASCII labels have no such form. -/
def meaning? (form : List Char) : Option (List Char) :=
  if maxForm < form.length then none
  else (Punycode.decode? form).filter fun meaning =>
    !isAscii meaning && isFinal meaning && isSound meaning

/-- Reads a label in its final characters. The mark of an ASCII form is not used for anything else. -/
def read? (label : List Char) : Option Label :=
  if mark.isPrefixOf label then
    (meaning? (label.drop mark.length)).map fun meaning => ⟨label, meaning⟩
  else if isAscii label then some ⟨label, label⟩
  else if isSound label then some ⟨mark ++ Punycode.encode label, label⟩
  else none

end Label

/-- ASCII characters that no domain holds. -/
def isForbidden (c : Char) : Bool :=
  c.toNat ≤ 0x20 || c.toNat = 0x7F || "#/:<>?@[\\]^|%".toList.contains c

/-- The ASCII form of a domain. -/
def asciiDomain? (s : List Char) : Option (List Char) := do
  let characters ← s.mapM substitute?
  let labels ← (Text.splitAll '.' (Text.composed characters.flatten)).mapM Label.read?
  let form := ['.'].intercalate (labels.map (·.form))
  if form.any isForbidden || !keepDirections (labels.map (·.meaning)) then none else return form

end BuildHook.Url
