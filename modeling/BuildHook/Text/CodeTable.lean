import BuildHook.Text.Hex
import BuildHook.Text.Split
import Std.Data.HashMap

/-!
# Tables of code points

Properties of characters are given as lines of words between spaces, in hexadecimal digits. In a
set, `5F` is one code point and `41-5A` all from the first to the last; the words ascend. In a map,
`AA>61,62+63` gives what the code points from the first one on stand for, in order; `41-5A>61` and
`41~59>61` give it for all, or every second one, of a range whose texts ascend alike; and `41-5A=61`
gives one text for all of a range.
-/

namespace BuildHook.Text

/-- The number that hexadecimal digits stand for. -/
def codePoint (digits : List Char) : Nat :=
  digits.foldl (fun n c => 16 * n + (Hex.digitValue? (UInt8.ofNat c.toNat)).getD 0) 0

/-- The words of lines. -/
def tableWords (lines : List String) : List (List Char) :=
  lines.flatMap fun line => splitAll ' ' line.toList

/-- A set of code points, as the edges at which membership changes, in ascending order. -/
structure CodeSet where
  edges : Array Nat

namespace CodeSet

/-- The edges of a word. -/
def wordEdges (word : List Char) : List Nat :=
  match (splitAll '-' word).map codePoint with
  | [only] => [only, only + 1]
  | [first, last] => [first, last + 1]
  | _ => []

/-- The set that lines give. -/
def ofLines (lines : List String) : CodeSet := ⟨((tableWords lines).flatMap wordEdges).toArray⟩

/-- The place of the first edge behind a code point; those before `low` are not behind it, and those
from `high` on are. -/
def place (edges : Array Nat) (n low high : Nat) : Nat :=
  if low < high then
    let middle := (low + high) / 2
    if edges.getD middle 0 ≤ n then place edges n (middle + 1) high else place edges n low middle
  else low
termination_by high - low

/-- Whether a character belongs to a set: an odd number of edges is not behind it. -/
def contains (set : CodeSet) (c : Char) : Bool :=
  place set.edges c.toNat 0 set.edges.size % 2 == 1

end CodeSet

/-- Characters are found by their code points. -/
instance hashableChar : Hashable Char := instHashableChar

/-- Texts for some characters. -/
abbrev CodeMap := Std.HashMap Char (List Char)

namespace CodeMap

/-- The text that code points between `+` make. -/
def wordText (word : List Char) : List Char :=
  if word.isEmpty then [] else (splitAll '+' word).map fun digits => Char.ofNat (codePoint digits)

/-- Every `step`-th character of a range. -/
def range (first last step : Nat) : List Char :=
  (List.range ((last - first) / step + 1)).map fun i => Char.ofNat (first + i * step)

/-- The entries of a range: its texts ascend with the characters, or stay. -/
def rangeEntries (ascending : Bool) (first last step : Nat) (text : List Char) :
    List (Char × List Char) :=
  (range first last step).map fun c =>
    (c, if ascending then text.map fun t => Char.ofNat (t.toNat + (c.toNat - first)) else text)

/-- The entries of a word. -/
def wordEntries (word : List Char) : List (Char × List Char) :=
  let source := word.takeWhile fun c => c != '>' && c != '='
  let target := word.drop (source.length + 1)
  let ascending := !word.contains '='
  match (splitAll '-' source).map codePoint, (splitAll '~' source).map codePoint with
  | [first, last], _ => rangeEntries ascending first last 1 (wordText target)
  | _, [first, last] => rangeEntries ascending first last 2 (wordText target)
  | _, _ =>
    ((splitAll ',' target).zipIdx).map fun (text, i) =>
      (Char.ofNat (codePoint source + i), wordText text)

/-- The map that lines give. -/
def ofLines (lines : List String) : CodeMap :=
  .ofList ((tableWords lines).flatMap wordEntries)

end CodeMap

end BuildHook.Text
