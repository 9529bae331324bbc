/-!
# UTF-8

A byte list is read from the front, one character at a time. What cannot be read is taken off in
maximal parts: the longest piece that begins some character without finishing it, or one byte that
begins none. `decode?` refuses a text with such a part and `decodeLossy` writes U+FFFD for each.
-/

namespace BuildHook

/-- Raw content of files, requests and process output. -/
abbrev Bytes := List UInt8

namespace Utf8

/-- What a leading byte announces: its payload, the range of the byte after it, and how many
continuation bytes follow that one. -/
structure Lead where
  payload : Nat
  low : UInt8
  high : UInt8
  more : Nat

/-- The announcements of the leading bytes of sequences longer than one byte. The narrowed ranges
exclude overlong forms, surrogates and code points above U+10FFFF. -/
def lead? (b : UInt8) : Option Lead :=
  if b < 0xC2 then none
  else if b < 0xE0 then some ⟨b.toNat - 0xC0, 0x80, 0xBF, 0⟩
  else if b = 0xE0 then some ⟨0, 0xA0, 0xBF, 1⟩
  else if b = 0xED then some ⟨13, 0x80, 0x9F, 1⟩
  else if b < 0xF0 then some ⟨b.toNat - 0xE0, 0x80, 0xBF, 1⟩
  else if b = 0xF0 then some ⟨0, 0x90, 0xBF, 2⟩
  else if b < 0xF4 then some ⟨b.toNat - 0xF0, 0x80, 0xBF, 2⟩
  else if b = 0xF4 then some ⟨4, 0x80, 0x8F, 2⟩
  else none

/-- Bytes that may stand inside a sequence, after its first two. -/
def isContinuation (b : UInt8) : Bool := 0x80 ≤ b && b ≤ 0xBF

/-- Appends the six payload bits of a continuation byte. -/
def extend (value : Nat) (b : UInt8) : Nat := value * 64 + b.toNat % 64

/-- What stands at the front of a byte list, with what follows it. -/
inductive Front where
  | scalar (c : Char) (rest : Bytes)
  | refused (rest : Bytes)

/-- The bytes behind the front part. -/
def Front.rest : Front → Bytes
  | .scalar _ rest => rest
  | .refused rest => rest

/-- Reads the last `n` continuation bytes of a sequence whose bits so far are `value`. -/
def continuations : Nat → Nat → Bytes → Front
  | 0, value, bs => .scalar (Char.ofNat value) bs
  | _ + 1, _, [] => .refused []
  | n + 1, value, b :: bs =>
      if isContinuation b then continuations n (extend value b) bs else .refused (b :: bs)

/-- Takes one character, or one maximal refused part, off the front of `b :: bs`. -/
def front (b : UInt8) (bs : Bytes) : Front :=
  if b < 0x80 then .scalar (Char.ofNat b.toNat) bs
  else
    match lead? b with
    | none => .refused bs
    | some l =>
      match bs with
      | [] => .refused []
      | c :: cs =>
        if l.low ≤ c && c ≤ l.high then continuations l.more (extend l.payload c) cs
        else .refused (c :: cs)

theorem continuations_rest_length_le (n value : Nat) (bs : Bytes) :
    (continuations n value bs).rest.length ≤ bs.length := by
  induction n generalizing value bs with
  | zero => exact Nat.le_refl _
  | succ n ih =>
    cases bs with
    | nil => exact Nat.le_refl _
    | cons b bs =>
      unfold continuations
      split
      · exact Nat.le_succ_of_le (ih _ _)
      · exact Nat.le_refl _

theorem front_rest_length_le (b : UInt8) (bs : Bytes) :
    (front b bs).rest.length ≤ bs.length := by
  unfold front
  split
  · exact Nat.le_refl _
  · split
    · exact Nat.le_refl _
    · split
      · exact Nat.le_refl _
      · split
        · exact Nat.le_succ_of_le (continuations_rest_length_le _ _ _)
        · exact Nat.le_refl _

/-- The characters of a byte list, with U+FFFD for every refused part. -/
def decodeLossyChars (bytes : Bytes) : List Char :=
  match bytes with
  | [] => []
  | b :: bs =>
    match h : front b bs with
    | .scalar c rest =>
        have : rest.length ≤ bs.length := by
          have := front_rest_length_le b bs; rw [h] at this; exact this
        c :: decodeLossyChars rest
    | .refused rest =>
        have : rest.length ≤ bs.length := by
          have := front_rest_length_le b bs; rw [h] at this; exact this
        '\uFFFD' :: decodeLossyChars rest
  termination_by bytes.length

/-- The text of a byte list, with U+FFFD for every refused part. -/
def decodeLossy (bytes : Bytes) : String := String.ofList (decodeLossyChars bytes)

/-- Reads characters on top of those already read, which stand in reverse order. -/
def decodeOnto? (read : List Char) (bytes : Bytes) : Option (List Char) :=
  match bytes with
  | [] => some read.reverse
  | b :: bs =>
    match h : front b bs with
    | .scalar c rest =>
        have : rest.length ≤ bs.length := by
          have := front_rest_length_le b bs; rw [h] at this; exact this
        decodeOnto? (c :: read) rest
    | .refused _ => none
  termination_by bytes.length

/-- The text of a byte list, if no part of it is refused. -/
def decode? (bytes : Bytes) : Option String := (decodeOnto? [] bytes).map String.ofList

/-- Where the first refused part begins, behind `passed` bytes. -/
def refusedFrom? (passed : Nat) (bytes : Bytes) : Option Nat :=
  match bytes with
  | [] => none
  | b :: bs =>
    match h : front b bs with
    | .scalar c rest =>
        have : rest.length ≤ bs.length := by
          have := front_rest_length_le b bs; rw [h] at this; exact this
        refusedFrom? (passed + c.utf8Size) rest
    | .refused _ => some passed
  termination_by bytes.length

/-- How many bytes stand before the first refused part, if there is one. -/
def refusedAt? (bytes : Bytes) : Option Nat := refusedFrom? 0 bytes

/-- The bytes of one character. -/
def encodeChar (c : Char) : Bytes := String.utf8EncodeChar c

/-- The bytes of a text. -/
def encode (s : String) : Bytes := s.toList.flatMap encodeChar

end Utf8

end BuildHook
