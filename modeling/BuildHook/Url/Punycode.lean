/-!
# Punycode

The ASCII form of a label with characters outside ASCII: the ASCII characters come first, and then,
in the order of their code points, the places of the others, as numbers of variable length in base
36 whose digits adapt to the size of the numbers before.
-/

namespace BuildHook.Url.Punycode

/-- The letter or numeral of a digit below 36. -/
def digitChar (d : Nat) : Char := Char.ofNat (if d < 26 then 97 + d else 22 + d)

/-- The least digit that ends no number, at a place. -/
def threshold (place bias : Nat) : Nat := min 26 (max 1 (place - bias))

/-- Halves a distance until it is small, counting places. -/
def settle (distance place : Nat) : Nat × Nat :=
  if 455 < distance then settle (distance / 35) (place + 36) else (distance, place)
termination_by distance

/-- The bias after a number was written. -/
def adapt (distance count : Nat) (first : Bool) : Nat :=
  let d := if first then distance / 700 else distance / 2
  let (d, place) := settle (d + d / count) 0
  place + 36 * d / (d + 38)

/-- The digits of a number; a number has no more digits than its value and one. -/
def digits (bias : Nat) : Nat → Nat → Nat → List Char
  | 0, _, _ => []
  | turns + 1, place, n =>
    let t := threshold place bias
    if n < t then [digitChar n]
    else digitChar (t + (n - t) % (36 - t)) :: digits bias turns (place + 36) ((n - t) / (36 - t))

/-- What is carried from character to character: the distance since the last one written, the bias,
and the number of characters written. -/
structure Progress where
  distance : Nat
  bias : Nat
  written : Nat
  shown : List Char

/-- Passes one character of the label while those of code point `n` are written. -/
def Progress.pass (basic n : Nat) (p : Progress) (c : Char) : Progress :=
  if c.toNat < n then { p with distance := p.distance + 1 }
  else if c.toNat = n then
    { distance := 0
      bias := adapt p.distance (p.written + 1) (p.written == basic)
      written := p.written + 1
      shown := p.shown ++ digits p.bias (p.distance + 1) 36 p.distance }
  else p

/-- Writes the characters of the code points from `n` on. -/
def encodeFrom (label : List Char) (basic : Nat) : Nat → Nat → Progress → List Char
  | 0, _, p => p.shown
  | turns + 1, n, p =>
    match ((label.map Char.toNat).filter (n ≤ ·)).min? with
    | none => p.shown
    | some m =>
      let p := { p with distance := p.distance + (m - n) * (p.written + 1) }
      let p := label.foldl (Progress.pass basic m) p
      encodeFrom label basic turns (m + 1) { p with distance := p.distance + 1 }

/-- The ASCII form of a label. -/
def encode (label : List Char) : List Char :=
  let basic := label.filter fun c => c.toNat < 0x80
  let front := if basic.isEmpty then [] else basic ++ ['-']
  front ++ encodeFrom label basic.length label.length 0x80 ⟨0, 72, basic.length, []⟩

/-- The value of a letter or numeral as a digit. -/
def digit? (c : Char) : Option Nat :=
  if c.isLower then some (c.toNat - 97)
  else if c.isDigit then some (c.toNat - 22)
  else none

/-- A label that is being read back: what the number now read counts from, where its next character
goes, and the value of the next digit. -/
structure Reading where
  code : Nat
  position : Nat
  start : Nat
  bias : Nat
  weight : Nat
  place : Nat
  text : List Char

/-- No number reaches this bound. -/
def numberBound : Nat := Nat.pow 2 32

/-- Puts the character in that a finished number tells. -/
def Reading.insert? (r : Reading) (number : Nat) : Option Reading :=
  let count := r.text.length + 1
  let code := r.code + number / count
  let position := number % count
  if code.isValidChar then
    some
      { code, position := position + 1, start := position + 1
        bias := adapt (number - r.start) count (r.start == 0)
        weight := 1, place := 36, text := r.text.insertIdx position (Char.ofNat code) }
  else none

/-- Reads a digit. One below the threshold of its place ends its number. -/
def Reading.next? (r : Reading) (c : Char) : Option Reading := do
  let d ← digit? c
  let number := r.position + d * r.weight
  let t := threshold r.place r.bias
  let weight := r.weight * (36 - t)
  if numberBound ≤ number then none
  else if d < t then r.insert? number
  else if numberBound ≤ weight then none
  else return { r with position := number, weight, place := r.place + 36 }

/-- The label that has an ASCII form. The ASCII characters stand before the last hyphen, unless that
comes first of all. -/
def decode? (form : List Char) : Option (List Char) := do
  let digits := (form.reverse.takeWhile (· != '-')).reverse
  let basic := (form.take (form.length - digits.length)).dropLast
  let digits := if basic.isEmpty then form else digits
  if basic.any (0x80 ≤ ·.toNat) then none
  else
    let r ← digits.foldlM Reading.next? ⟨0x80, 0, 0, 72, 1, 36, basic⟩
    if r.place = 36 then return r.text else none

end BuildHook.Url.Punycode
