import BuildHook.Json.Cursor
import BuildHook.Json.Value

/-!
# Numbers in JSON text

An integer that fits 64 bits is kept exactly. Any other number becomes a floating-point number:
digits are gathered into a significand of 64 bits as long as they fit, and the significand is scaled
once by a power of ten.
-/

namespace BuildHook.Json

/-- Whether a byte is a decimal digit. -/
def isDigit (b : UInt8) : Bool := 48 ≤ b && b ≤ 57

/-- The value of a decimal digit. -/
def digitValue (b : UInt8) : Nat := b.toNat - 48

/-- Adds digits to a significand while it fits 64 bits, and returns those that are left. -/
def gather (significand : Nat) : Bytes → Nat × Bytes
  | [] => (significand, [])
  | b :: bs =>
    let more := significand * 10 + digitValue b
    if more < Nat.pow 2 64 then gather more bs else (significand, b :: bs)

/-- A power of ten as a floating-point number. -/
def powerOfTen (n : Nat) : Float := Float.ofScientific 1 false n

/-- Scales down by powers of ten; steps beyond the range of one power are taken one by one. -/
def scaleDown (x : Float) (n : Nat) : Nat → Float
  | 0 => x
  | steps + 1 =>
    if n ≤ 308 then x / powerOfTen n
    else if x == 0.0 then x
    else scaleDown (x / powerOfTen 308) (n - 308) steps

/-- A significand times a power of ten, if it is in range. -/
def scaled? (significand : Nat) (exponent : Int) : Option Float :=
  let x := (UInt64.ofNat significand).toFloat
  if exponent < 0 then some (scaleDown x (-exponent).toNat 8)
  else if exponent ≤ 308 then
    let y := x * powerOfTen exponent.toNat
    if y.isInf then none else some y
  else if x == 0.0 then some x
  else none

/-- Takes the digits in front. -/
def takeDigits (place : Place) : Bytes → Bytes × Cursor
  | [] => ([], ⟨[], place⟩)
  | b :: bs =>
    if isDigit b then
      let (digits, c) := takeDigits (place.after b) bs
      (b :: digits, c)
    else ([], ⟨b :: bs, place⟩)

namespace Reader

/-- The digits in front. -/
def digits : Reader Bytes := do
  let c ← get
  let (ds, after) := takeDigits c.place c.rest
  set after
  return ds

/-- A number with its sign. -/
def signed (negative : Bool) (x : Float) : Json := .float (if negative then -x else x)

/-- Scales a significand; a result beyond the largest number is refused. -/
def scale (negative : Bool) (significand : Nat) (exponent : Int) : Reader Json :=
  match scaled? significand exponent with
  | some x => return signed negative x
  | none => fail .numberOutOfRange

/-- The largest exponent that is taken at its value. -/
def maxExponent : Nat := 2147483647

/-- Reads exponent digits behind `exponent`. An exponent beyond all bounds makes zero, or is refused
where the number would be infinite. -/
def exponentDigits (negative : Bool) (significand : Nat) (start : Int) (positiveExponent : Bool)
    (exponent : Nat) (place : Place) : Bytes → Except Error (Json × Cursor)
  | [] => (scale negative significand
      (if positiveExponent then start + exponent else start - exponent)).run ⟨[], place⟩
  | b :: bs =>
    if isDigit b then
      let more := exponent * 10 + digitValue b
      if maxExponent < more then
        if significand ≠ 0 && positiveExponent then
          .error ⟨.numberOutOfRange, place.after b⟩
        else .ok (signed negative 0.0, (takeDigits (place.after b) bs).2)
      else exponentDigits negative significand start positiveExponent more (place.after b) bs
    else (scale negative significand
      (if positiveExponent then start + exponent else start - exponent)).run ⟨b :: bs, place⟩

/-- Reads an exponent, whose letter is next. -/
def exponentPart (negative : Bool) (significand : Nat) (start : Int) : Reader Json := do
  skip
  let sign ← peek
  if sign = some 43 || sign = some 45 then skip
  match ← next with
  | none => fail .eofInValue
  | some b =>
    if isDigit b then do
      let c ← get
      let (value, after) ←
        exponentDigits negative significand start (sign != some 45) (digitValue b) c.place c.rest
      set after
      return value
    else fail .invalidNumber

/-- Whether a byte begins an exponent. -/
def isExponentLetter (b : Option UInt8) : Bool := b == some 101 || b == some 69

/-- Reads a fraction, whose point is next. -/
def fractionPart (negative : Bool) (significand : Nat) (start : Int) : Reader Json := do
  skip
  let ds ← digits
  if ds.isEmpty then
    match ← peek with
    | some _ => failAfter .invalidNumber
    | none => failAfter .eofInValue
  else do
    let (significand, left) := gather significand ds
    let exponent := start - (ds.length - left.length : Nat)
    if isExponentLetter (← peek) then exponentPart negative significand exponent
    else scale negative significand exponent

/-- An integer without fraction and exponent. -/
def whole (negative : Bool) (significand : Nat) : Json :=
  if !negative then .int significand
  else if significand = 0 || Nat.pow 2 63 < significand then
    signed true (UInt64.ofNat significand).toFloat
  else .int (-(significand : Int))

/-- Reads a number whose sign has been passed. -/
def number (negative : Bool) : Reader Json := do
  match ← next with
  | none => fail .eofInValue
  | some b =>
    if !isDigit b then fail .invalidNumber
    else do
      let ds ← if b = 48 then pure [] else digits
      if b = 48 && (← peek).any isDigit then failAfter .invalidNumber
      else do
        let (significand, left) := gather 0 (b :: ds)
        let following ← peek
        if following = some 46 then fractionPart negative significand left.length
        else if isExponentLetter following then exponentPart negative significand left.length
        else if left.isEmpty then return whole negative significand
        else scale negative significand left.length

/-- Passes digits, at least one of which must be next. -/
def skipExponent : Reader Unit := do
  skip
  let sign ← peek
  if sign = some 43 || sign = some 45 then skip
  match ← next with
  | none => fail .invalidNumber
  | some b =>
    if isDigit b then do
      let _ ← digits
    else fail .invalidNumber

/-- Passes a number whose sign has been passed. -/
def skipNumber : Reader Unit := do
  match ← next with
  | none => fail .invalidNumber
  | some b =>
    if !isDigit b then fail .invalidNumber
    else do
      if b = 48 then do
        if (← peek).any isDigit then failAfter .invalidNumber
      else do
        let _ ← digits
      if (← peek) = some 46 then do
        skip
        if (← digits).isEmpty then failAfter .invalidNumber
      if isExponentLetter (← peek) then skipExponent

end Reader

end BuildHook.Json
