import BuildHook.Text.Utf8

/-!
# Hexadecimal text

Every byte is written as two lower-case digits, the high half first. Reading accepts both cases and
refuses an odd number of digits or any other character.
-/

namespace BuildHook.Hex

/-- The digit that stands for a value below sixteen. -/
def digit (n : Nat) : Char :=
  if n < 10 then Char.ofNat (48 + n) else Char.ofNat (87 + n)

/-- The value of a digit, given as an ASCII code, in either case. -/
def digitValue? (b : UInt8) : Option Nat :=
  if 48 ≤ b && b ≤ 57 then some (b.toNat - 48)
  else if 97 ≤ b && b ≤ 102 then some (b.toNat - 87)
  else if 65 ≤ b && b ≤ 70 then some (b.toNat - 55)
  else none

/-- The two digits of a byte. -/
def encodeByte (b : UInt8) : List Char := [digit (b.toNat / 16), digit (b.toNat % 16)]

/-- The digits of a byte list. -/
def encodeChars (bytes : Bytes) : List Char := bytes.flatMap encodeByte

/-- The digits of a byte list as a text. -/
def encode (bytes : Bytes) : String := String.ofList (encodeChars bytes)

/-- Reads pairs of digits, given as ASCII codes. -/
def decode? : Bytes → Option Bytes
  | [] => some []
  | [_] => none
  | a :: b :: rest =>
    match digitValue? a, digitValue? b, decode? rest with
    | some high, some low, some bytes => some (UInt8.ofNat (high * 16 + low) :: bytes)
    | _, _, _ => none

/-- The digits of a number, most significant first, without leading zeros. -/
def ofNat (n : Nat) : String := String.ofList (Nat.toDigits 16 n)

end BuildHook.Hex
