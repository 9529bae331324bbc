/-!
# Nearest floating-point numbers

A decimal is read as the nearest floating-point number. Decimals far outside the range of the format
are decided by an estimate of their power of ten, without computing them.
-/

namespace BuildHook.Decimal

/-- Powers of ten at or beyond which every number is infinite, and at or below whose inverse every
number is zero. -/
def beyondRange : Int := 400

/-- A power of ten near a positive number, taken from its power of two by the logarithm of two. -/
def magnitude (n : Nat) : Nat := n.log2 * 30103 / 100000

/-- The number nearest to `digits * 10 ^ exponent`; infinity stands for all that is too large. -/
def nearest (digits : Nat) (exponent : Int) : Float :=
  let magnitude := (magnitude digits : Int) + exponent
  if digits = 0 then 0.0
  else if beyondRange ≤ magnitude then 1.0 / 0.0
  else if magnitude ≤ -beyondRange then 0.0
  else if exponent < 0 then Float.ofScientific digits true (-exponent).toNat
  else Float.ofScientific digits false exponent.toNat

end BuildHook.Decimal
