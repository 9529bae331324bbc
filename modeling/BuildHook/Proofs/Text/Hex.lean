import BuildHook.Proofs.Text.Encoding
import BuildHook.Text.Hex

/-!
# Hexadecimal digits

Which bytes are digits, and which digits spell a byte list. The rules stand here on their own,
without the reader and the writer of digits: the reader reads exactly what spells something, and the
writer writes the spelling in lower case.

## Main results

`decode?_eq_some_iff` is about the reader, `spells_encode` and `Spells.lowered` about the writer.
-/

namespace BuildHook.Hex

/-- The sixteen digits in lower case, each at the place of its value. -/
def lowerDigits : Bytes := Utf8.encode "0123456789abcdef"

/-- The sixteen digits in upper case. -/
def upperDigits : Bytes := Utf8.encode "0123456789ABCDEF"

/-- Whether a byte is a digit that stands for a value. -/
def Stands (b : UInt8) (value : Nat) : Prop :=
  lowerDigits[value]? = some b ∨ upperDigits[value]? = some b

instance (b : UInt8) (value : Nat) : Decidable (Stands b value) :=
  inferInstanceAs (Decidable (_ ∨ _))

/-- Whether a byte is a digit. -/
def IsDigit (b : UInt8) : Prop := b ∈ lowerDigits ∨ b ∈ upperDigits

/-- The digits that spell a byte list: two for each byte, the high half first. -/
inductive Spells : Bytes → Bytes → Prop
  | nil : Spells [] []
  | cons {a b : UInt8} {high low : Nat} {digits bytes : Bytes} (first : Stands a high)
      (second : Stands b low) (rest : Spells digits bytes) :
      Spells (a :: b :: digits) (UInt8.ofNat (high * 16 + low) :: bytes)

/-- A letter of ASCII in lower case. -/
def lowered (b : UInt8) : UInt8 := if 65 ≤ b && b ≤ 90 then b + 32 else b

theorem Stands.lt {b : UInt8} {value : Nat} (stands : Stands b value) : value < 16 := by
  rcases stands with found | found <;> exact (List.getElem?_eq_some_iff.mp found).1

theorem Stands.isDigit {b : UInt8} {value : Nat} (stands : Stands b value) : IsDigit b :=
  stands.imp List.mem_of_getElem? List.mem_of_getElem?

/-- In lower case a digit is the one at the place of its value. -/
theorem Stands.lowered {b : UInt8} {value : Nat} (stands : Stands b value) :
    lowerDigits[value]? = some (Hex.lowered b) := by
  have lower : lowerDigits.map Hex.lowered = lowerDigits := by decide
  have upper : upperDigits.map Hex.lowered = lowerDigits := by decide
  rcases stands with found | found
  · rw [← lower, List.getElem?_map, found, Option.map_some]
  · rw [← upper, List.getElem?_map, found, Option.map_some]

/-- The value of a digit is the one that it stands for. -/
theorem digitValue?_eq_some_iff (b : UInt8) (value : Nat) :
    digitValue? b = some value ↔ Stands b value := by
  have read : ∀ code < 256, ∀ value ∈ digitValue? (UInt8.ofNat code),
      Stands (UInt8.ofNat code) value := by
    decide +kernel
  have lower : ∀ value < 16, ∀ b ∈ lowerDigits[value]?, digitValue? b = some value := by
    decide +kernel
  have upper : ∀ value < 16, ∀ b ∈ upperDigits[value]?, digitValue? b = some value := by
    decide +kernel
  constructor
  · intro found
    rw [← UInt8.ofNat_toNat (x := b)] at found ⊢
    exact read b.toNat b.toNat_lt value found
  · intro stands
    exact stands.elim (lower value stands.lt b) (upper value stands.lt b)

/-- The digit that is written for a value is the one in lower case. -/
theorem encodeChar_digit : ∀ value < 16, ∃ b ∈ lowerDigits[value]?,
    Utf8.encodeChar (digit value) = [b] := by
  decide

theorem decode?_of_spells {digits bytes : Bytes} (spelled : Spells digits bytes) :
    decode? digits = some bytes := by
  induction spelled with
  | nil => rfl
  | cons first second rest ih =>
    rw [decode?, (digitValue?_eq_some_iff _ _).mpr first, (digitValue?_eq_some_iff _ _).mpr second,
      ih]

theorem spells_of_decode? {digits bytes : Bytes} (read : decode? digits = some bytes) :
    Spells digits bytes := by
  fun_induction decode? digits generalizing bytes with
  | case1 =>
    cases read
    exact .nil
  | case2 => cases read
  | case3 a b rest high low tail read_rest second first ih =>
    cases read
    exact .cons ((digitValue?_eq_some_iff a _).mp first)
      ((digitValue?_eq_some_iff b _).mp second) (ih read_rest)
  | case4 => cases read

/-- The reader reads exactly the digits that spell something. -/
theorem decode?_eq_some_iff (digits bytes : Bytes) :
    decode? digits = some bytes ↔ Spells digits bytes :=
  ⟨spells_of_decode?, decode?_of_spells⟩

theorem encode_cons (b : UInt8) (bytes : Bytes) :
    Utf8.encode (encode (b :: bytes))
      = Utf8.encodeChar (digit (b.toNat / 16)) ++ (Utf8.encodeChar (digit (b.toNat % 16))
        ++ Utf8.encode (encode bytes)) := by
  simp only [Utf8.encode_eq, encode, String.toList_ofList, encodeChars, List.flatMap_cons,
    encodeByte, List.cons_append, List.nil_append, Utf8.encodeChars_cons]

/-- The writer writes a spelling. -/
theorem spells_encode (bytes : Bytes) : Spells (Utf8.encode (encode bytes)) bytes := by
  induction bytes with
  | nil => exact .nil
  | cons b bytes ih =>
    have range : b.toNat < 256 := b.toNat_lt
    obtain ⟨first, found, high⟩ := encodeChar_digit (b.toNat / 16) (by omega)
    obtain ⟨second, found', low⟩ := encodeChar_digit (b.toNat % 16) (by omega)
    have halves : UInt8.ofNat (b.toNat / 16 * 16 + b.toNat % 16) = b := by
      rw [Nat.div_add_mod', UInt8.ofNat_toNat]
    have spelled := Spells.cons (.inl found) (.inl found') ih
    rwa [halves, ← List.singleton_append, ← high, ← List.singleton_append (x := second), ← low,
      ← encode_cons] at spelled

namespace Spells

variable {digits bytes other : Bytes}

theorem length_eq (spelled : Spells digits bytes) : digits.length = 2 * bytes.length := by
  induction spelled with
  | nil => rfl
  | cons first second rest ih =>
    simp only [List.length_cons, ih]
    omega

theorem isDigit (spelled : Spells digits bytes) : ∀ b ∈ digits, IsDigit b := by
  induction spelled with
  | nil => exact List.forall_mem_nil _
  | cons first second rest ih =>
    exact List.forall_mem_cons.mpr ⟨first.isDigit, List.forall_mem_cons.mpr ⟨second.isDigit, ih⟩⟩

/-- Digits spell one byte list only. -/
theorem unique (spelled : Spells digits bytes) (again : Spells digits other) : bytes = other :=
  Option.some.inj ((decode?_of_spells spelled).symm.trans (decode?_of_spells again))

/-- Whatever the case of the digits was, in lower case they are those that the writer writes. -/
theorem lowered (spelled : Spells digits bytes) :
    digits.map Hex.lowered = Utf8.encode (encode bytes) := by
  induction spelled with
  | nil => rfl
  | @cons a b high low digits bytes first second rest ih =>
    have above := first.lt
    have below := second.lt
    have byte : (UInt8.ofNat (high * 16 + low)).toNat = high * 16 + low :=
      UInt8.toNat_ofNat_of_lt' (show _ < 256 by omega)
    obtain ⟨lower, found, written⟩ := encodeChar_digit high above
    obtain ⟨lower', found', written'⟩ := encodeChar_digit low below
    rw [encode_cons, byte, show (high * 16 + low) / 16 = high by omega,
      show (high * 16 + low) % 16 = low by omega, written, written', ← ih]
    cases first.lowered.symm.trans found
    cases second.lowered.symm.trans found'
    rfl

end Spells

end BuildHook.Hex
