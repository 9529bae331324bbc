import BuildHook.Text.Split
import BuildHook.Url.Escape

/-!
# Paths of URLs

The path of a URL is a list of segments. `.` stands for nothing and `..` for leaving the segment
above, however their dots are written. A drive letter is never left, and as the first segment in the
scheme of files it is written with a colon.
-/

namespace BuildHook.Url

/-- Whether a segment stands for the one above. -/
def isDoubleDot (segment : List Char) : Bool :=
  [['.', '.'], ['.', '%', '2', 'e'], ['%', '2', 'e', '.'],
    ['%', '2', 'e', '%', '2', 'e']].contains (segment.map Char.toLower)

/-- Whether a segment stands for nothing. -/
def isSingleDot (segment : List Char) : Bool :=
  [['.'], ['%', '2', 'e']].contains (segment.map Char.toLower)

/-- Whether a segment is a drive letter. -/
def isDrive : List Char → Bool
  | [letter, mark] => letter.isAlpha && (mark = ':' || mark = '|')
  | _ => false

/-- The segments above after leaving the last one. Segments stand in reverse order. -/
def leave : List (List Char) → List (List Char)
  | [] => []
  | last :: above => if isDrive last then last :: above else above

/-- The segments after one that stands for itself. Segments stand in reverse order. -/
def enter (file : Bool) (above : List (List Char)) (segment : List Char) : List (List Char) :=
  if file && above.isEmpty && isDrive segment then [segment.take 1 ++ [':']]
  else escape pathSet segment :: above

/-- Adds segments to those above, which stand in reverse order. -/
def resolve (file : Bool) (above : List (List Char)) : List (List Char) → List (List Char)
  | [] => above.reverse
  | [last] =>
    if isDoubleDot last then ([] :: leave above).reverse
    else if isSingleDot last then ([] :: above).reverse
    else (enter file above last).reverse
  | segment :: rest =>
    if isDoubleDot segment then resolve file (leave above) rest
    else if isSingleDot segment then resolve file above rest
    else resolve file (enter file above segment) rest

/-- The text of segments. -/
def segmentsText (segments : List (List Char)) : String :=
  String.ofList (segments.flatMap fun segment => '/' :: segment)

/-- Segments without the empty ones in front, but at least one. -/
def withoutEmptyFront : List (List Char) → List (List Char)
  | [] :: segment :: rest => withoutEmptyFront (segment :: rest)
  | segments => segments

end BuildHook.Url
