import BuildHook.Json.Cursor
import BuildHook.Text.Hex

/-!
# String literals

A literal is read byte by byte; between bytes only the mode matters, which says how far an escape
has come. Two escapes above and below the surrogate boundary make one character. A literal whose
value is not needed is passed with a weaker check: its escapes may be lone surrogates.
-/

namespace BuildHook.Json

/-- What has been read of an escape. `high` is a leading surrogate that waits for its partner. -/
inductive StringMode where
  | plain
  | escape
  | hex (high : Option Nat) (digits : Bytes)
  | partnerSlash (high : Nat)
  | partnerU (high : Nat)

/-- What one byte of a literal does. -/
inductive StringStep where
  | read (mode : StringMode) (bytes : Bytes)
  | close
  | refuse (fault : Fault)

/-- The number that four hexadecimal digits stand for. -/
def hexValue? (digits : Bytes) : Option Nat :=
  digits.foldl
    (fun value b => do return (← value) * 16 + (← Hex.digitValue? b)) (some 0)

/-- The value of an escape of one letter. -/
def shortEscape? (b : UInt8) : Option UInt8 :=
  if b = 34 || b = 92 || b = 47 then some b
  else if b = 98 then some 8
  else if b = 102 then some 12
  else if b = 110 then some 10
  else if b = 114 then some 13
  else if b = 116 then some 9
  else none

/-- The bytes of a code point. -/
def codePoint (n : Nat) : Bytes := Utf8.encodeChar (Char.ofNat n)

/-- What a complete escape of four digits does. -/
def hexStep (high : Option Nat) (digits : Bytes) : StringStep :=
  match hexValue? digits, high with
  | none, _ => .refuse .invalidEscape
  | some n, none =>
      if 0xDC00 ≤ n && n ≤ 0xDFFF then .refuse .loneSurrogate
      else if 0xD800 ≤ n && n ≤ 0xDBFF then .read (.partnerSlash n) []
      else .read .plain (codePoint n)
  | some n, some high =>
      if 0xDC00 ≤ n && n ≤ 0xDFFF then
        .read .plain (codePoint (0x10000 + (high - 0xD800) * 0x400 + (n - 0xDC00)))
      else .refuse .loneSurrogate

/-- What one byte of a literal does in a mode. -/
def StringMode.step (mode : StringMode) (b : UInt8) : StringStep :=
  match mode with
  | .plain =>
      if b = 34 then .close
      else if b = 92 then .read .escape []
      else if b < 32 then .refuse .controlCharacter
      else .read .plain [b]
  | .escape =>
      if b = 117 then .read (.hex none []) []
      else
        match shortEscape? b with
        | some value => .read .plain [value]
        | none => .refuse .invalidEscape
  | .hex high digits =>
      if digits.length = 3 then hexStep high (digits ++ [b])
      else .read (.hex high (digits ++ [b])) []
  | .partnerSlash high => if b = 92 then .read (.partnerU high) [] else .refuse .endOfHexEscape
  | .partnerU high => if b = 117 then .read (.hex (some high) []) [] else .refuse .endOfHexEscape

/-- What is wrong with the value of a literal that ends at `place`, if it is not UTF-8. The place
told is as far before that end as the value goes on behind its last good byte. -/
def refusal? (value : Bytes) (place : Place) : Option Error :=
  (Utf8.refusedAt? value).map fun passed =>
    ⟨.invalidCodePoint, place.line, place.column - (value.length - passed)⟩

/-- Reads the rest of a literal; `value` holds what was read so far, in reverse order. Whether it is
UTF-8 is seen only where the literal ends. -/
def readLiteral (mode : StringMode) (value : Bytes) (place : Place) :
    Bytes → Except Error (Bytes × Cursor)
  | [] => .error ⟨.eofInString, place⟩
  | b :: bs =>
    match mode.step b with
    | .read mode bytes => readLiteral mode (bytes.reverse ++ value) (place.after b) bs
    | .close =>
        match refusal? value.reverse (place.after b) with
        | some e => .error e
        | none => .ok (value.reverse, ⟨bs, place.after b⟩)
    | .refuse fault => .error ⟨fault, place.after b⟩

/-- What has been read of an escape in a literal that is passed. -/
inductive PassMode where
  | plain
  | escape
  | hex (digits : Bytes)

/-- Passes the rest of a literal. -/
def passLiteral (mode : PassMode) (place : Place) : Bytes → Except Error Cursor
  | [] => .error ⟨.eofInString, place⟩
  | b :: bs =>
    match mode with
    | .plain =>
        if b = 34 then .ok ⟨bs, place.after b⟩
        else if b = 92 then passLiteral .escape (place.after b) bs
        else if b < 32 then .error ⟨.controlCharacter, place⟩
        else passLiteral .plain (place.after b) bs
    | .escape =>
        if b = 117 then passLiteral (.hex []) (place.after b) bs
        else if (shortEscape? b).isSome then passLiteral .plain (place.after b) bs
        else .error ⟨.invalidEscape, place.after b⟩
    | .hex digits =>
        if digits.length = 3 then
          if (hexValue? (digits ++ [b])).isSome then passLiteral .plain (place.after b) bs
          else .error ⟨.invalidEscape, place.after b⟩
        else passLiteral (.hex (digits ++ [b])) (place.after b) bs

namespace Reader

/-- The text of a literal whose opening quote has been passed. -/
def stringBody : Reader String := do
  let c ← get
  let (bytes, after) ← readLiteral .plain [] c.place c.rest
  set after
  match Utf8.decode? bytes with
  | some s => return s
  | none => fail .invalidCodePoint

/-- Passes a literal whose opening quote has been passed. -/
def skipStringBody : Reader Unit := do
  let c ← get
  set (← passLiteral .plain c.place c.rest)

end Reader

end BuildHook.Json
