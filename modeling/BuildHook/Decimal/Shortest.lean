/-!
# Shortest decimals

A finite positive number of the binary64 format is a significand times a power of two, and so are
the two ends of the interval of reals that round to it. The shortest decimal is a point of the
coarsest decimal grid with a point in that interval; of two such points it is the nearer. All
arithmetic is exact.
-/

namespace BuildHook.Decimal

/-- A positive rational number, as numerator and denominator. -/
structure Ratio where
  num : Nat
  den : Nat

/-- The number times a power of ten. -/
def Ratio.scale10 (r : Ratio) (e : Int) : Ratio :=
  if 0 ≤ e then ⟨r.num * Nat.pow 10 e.toNat, r.den⟩ else ⟨r.num, r.den * Nat.pow 10 (-e).toNat⟩

/-- A positive number of the binary64 format: `significand * 2 ^ exponent`. The number below it is
closer than the one above it when the significand is the least of its exponent. -/
structure Binary where
  significand : Nat
  exponent : Int
  closerBelow : Bool

/-- Splits the bits of a finite positive number. -/
def Binary.ofBits (bits : UInt64) : Binary :=
  let fraction := bits.toNat % Nat.pow 2 52
  let biased : Nat := bits.toNat / Nat.pow 2 52 % Nat.pow 2 11
  if biased = 0 then ⟨fraction, -1074, false⟩
  else ⟨Nat.pow 2 52 + fraction, Int.ofNat biased - 1075, fraction == 0 && 1 < biased⟩

/-- A multiple of a quarter unit in the last place. -/
def Binary.quarters (b : Binary) (n : Nat) : Ratio :=
  if 0 ≤ b.exponent then ⟨n * Nat.pow 2 b.exponent.toNat, 4⟩
  else ⟨n, 4 * Nat.pow 2 (-b.exponent).toNat⟩

/-- The number itself. -/
def Binary.value (b : Binary) : Ratio := b.quarters (4 * b.significand)

/-- The lower end of the interval that rounds to the number. -/
def Binary.lower (b : Binary) : Ratio :=
  b.quarters (4 * b.significand - if b.closerBelow then 1 else 2)

/-- The upper end of the interval that rounds to the number. -/
def Binary.upper (b : Binary) : Ratio := b.quarters (4 * b.significand + 2)

/-- Whether `n` units of a grid lie in the interval; the ends count for an even significand. The
three numbers are given in units of the grid. -/
def within (lower upper : Ratio) (even : Bool) (n : Nat) : Bool :=
  if even then lower.num ≤ n * lower.den && n * upper.den ≤ upper.num
  else lower.num < n * lower.den && n * upper.den < upper.num

/-- The point of a grid that stands for the number, if one lies in the interval: of the neighbours
of the number the nearer, the even one at equal distance. -/
def Binary.onGrid? (b : Binary) (unit : Int) : Option Nat :=
  let value := b.value.scale10 (-unit)
  let inside := within (b.lower.scale10 (-unit)) (b.upper.scale10 (-unit)) (b.significand % 2 == 0)
  let down := value.num / value.den
  let up := down + 1
  let twice := 2 * (value.num % value.den)
  let nearerDown := twice < value.den || (twice == value.den && down % 2 == 0)
  if inside down && inside up then some (if nearerDown then down else up)
  else if inside down then some down
  else if inside up then some up
  else none

/-- The number of decimal digits of a natural number; zero has none. -/
def digitCount (n : Nat) : Nat := if n = 0 then 0 else (Nat.toDigits 10 n).length

/-- The power of ten of the leading digit. -/
def Ratio.magnitude (r : Ratio) : Int :=
  let guess : Int := (digitCount r.num : Int) - digitCount r.den
  let scaled := r.scale10 (-guess)
  if scaled.num < scaled.den then guess - 1 else guess

/-- A decimal: digits without leading zeros and the power of ten of the last one. -/
structure Numeral where
  digits : Nat
  exponent : Int

/-- Tries grids from coarse to fine. -/
def Binary.shortestFrom (b : Binary) (unit : Int) : Nat → Numeral
  | 0 => ⟨0, 0⟩
  | grids + 1 =>
    match b.onGrid? unit with
    | some n => ⟨n, unit⟩
    | none => b.shortestFrom (unit - 1) grids

/-- The shortest decimal of a positive number; seventeen digits always suffice. -/
def Binary.shortest (b : Binary) : Numeral :=
  b.shortestFrom (b.value.magnitude + 1) 19

/-- Takes zeros off the end of the digits. -/
def Numeral.strip (d : Numeral) : Nat → Numeral
  | 0 => d
  | steps + 1 =>
    if d.digits % 10 = 0 && d.digits ≠ 0 then Numeral.strip ⟨d.digits / 10, d.exponent + 1⟩ steps
    else d

/-- The digits as characters and the power of ten of the first one. -/
def Numeral.text (d : Numeral) : List Char × Int :=
  let d := d.strip 20
  let digits := Nat.toDigits 10 d.digits
  (digits, d.exponent + (digits.length : Int) - 1)

/-- How a decimal is laid out: within `least ≤ e < below` for the power `e` of the leading digit it
is written positionally, else with an exponent. -/
structure Layout where
  least : Int
  below : Int

/-- Positional text with at least one digit on both sides of the point. -/
def positional (digits : List Char) (e : Int) : List Char :=
  let n : Int := digits.length
  if e < 0 then '0' :: '.' :: (List.replicate (-e - 1).toNat '0' ++ digits)
  else if n ≤ e + 1 then digits ++ List.replicate (e + 1 - n).toNat '0' ++ ['.', '0']
  else digits.take (e + 1).toNat ++ '.' :: digits.drop (e + 1).toNat

/-- Text with an exponent that always carries a sign when positive or negative. -/
def scientific (digits : List Char) (e : Int) : List Char :=
  let mantissa := match digits with
    | [] => ['0']
    | [d] => [d]
    | d :: more => d :: '.' :: more
  let sign := if e < 0 then '-' else '+'
  mantissa ++ 'e' :: sign :: Nat.toDigits 10 e.natAbs

/-- The text of a finite number. -/
def Layout.show (layout : Layout) (x : Float) : String :=
  let bits := x.toBits
  let negative := Nat.pow 2 63 ≤ bits.toNat
  let magnitude := bits.toNat % Nat.pow 2 63
  let unsigned :=
    if magnitude = 0 then ['0', '.', '0']
    else
      let (digits, e) := (Binary.ofBits (UInt64.ofNat magnitude)).shortest.text
      if layout.least ≤ e && e < layout.below then positional digits e else scientific digits e
  String.ofList (if negative then '-' :: unsigned else unsigned)

/-- Numbers from `1e-5` up to, not including, `1e16` are written positionally. -/
def compact : Layout := ⟨-5, 16⟩

/-- All numbers are written positionally. -/
def expanded : Layout := ⟨-400, 400⟩

end BuildHook.Decimal
