import BuildHook.Text.Decomposition

/-!
# Canonical composition

Texts that are only other ways to write the same have one composed form: everything is taken apart,
marks are put in the order of their classes, and what can be put together behind a character that
starts a sequence is put together.
-/

namespace BuildHook.Text

/-- A character with its combining class. -/
abbrev Classed := Nat × Char

/-- Puts a character in front of an ordered text: behind the marks of lower classes. -/
def insertClassed (c : Classed) : List Classed → List Classed
  | [] => [c]
  | d :: rest => if 0 < d.1 && d.1 < c.1 then d :: insertClassed c rest else c :: d :: rest

/-- The characters of a text taken apart, with marks in order. -/
def orderedParts (s : List Char) : List Classed :=
  ((s.flatMap decompose).map fun c => (combiningClass c, c)).foldr insertClassed []

/-- The composite of each pair that has one. -/
def compositions : Std.HashMap (Char × Char) Char :=
  .ofList <| composites.toList.filterMap fun (composite, parts) =>
    match parts with
    | [first, second] => some ((first, second), composite)
    | _ => none

/-- The syllable that a leading letter and a vowel make, or a syllable without an end and an end. -/
def syllable? (a b : Char) : Option Char :=
  let leading := a.toNat - firstLeading
  let vowel := b.toNat - firstVowel
  let index := a.toNat - firstSyllable
  let ending := b.toNat - noTrailing
  if firstLeading ≤ a.toNat && leading < leadingCount && firstVowel ≤ b.toNat && vowel < vowelCount
  then some (Char.ofNat (firstSyllable + (leading * vowelCount + vowel) * endCount))
  else if firstSyllable ≤ a.toNat && index < leadingCount * vowelCount * endCount &&
    index % endCount = 0 && noTrailing < b.toNat && ending < endCount
  then some (Char.ofNat (a.toNat + ending))
  else none

/-- What two characters make together. -/
def composed? (a b : Char) : Option Char := syllable? a b <|> compositions[(a, b)]?

/-- A text that is being put together. What comes next may join the starter, unless a mark behind the
starter keeps it away. The finished characters and those behind the starter stand in reverse. -/
structure Composing where
  done : List Char
  starter : Option Char
  behind : List Classed

namespace Composing

/-- All characters so far, in reverse. -/
def reversed (p : Composing) : List Char := p.behind.map (·.2) ++ (p.starter.toList ++ p.done)

/-- Whether the marks behind the starter keep a character of a class away from it. -/
def isBlocked (p : Composing) (cls : Nat) : Bool := p.behind.head?.any fun mark => cls ≤ mark.1

/-- Adds the next character. -/
def add (p : Composing) (c : Classed) : Composing :=
  match if p.isBlocked c.1 then none else p.starter.bind fun starter => composed? starter c.2 with
  | some composite => { p with starter := some composite }
  | none =>
    if c.1 = 0 then ⟨p.reversed, some c.2, []⟩
    else if p.starter.isNone then { p with done := c.2 :: p.done }
    else { p with behind := c :: p.behind }

end Composing

/-- The composed form of a text. Without marks and composites it is the text itself. -/
def composed (s : List Char) : List Char :=
  if s.all fun c => c.toNat < 0x300 then s
  else ((orderedParts s).foldl Composing.add ⟨[], none, []⟩).reversed.reverse

end BuildHook.Text
