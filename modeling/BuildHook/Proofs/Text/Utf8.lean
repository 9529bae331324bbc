import BuildHook.Text.Utf8

/-!
# ASCII texts in UTF-8

A byte list that is read as an ASCII text is the bytes of that text: no other sequence yields an
ASCII character, and neither does a part that is refused. So comparing a decoded text with an ASCII
text is comparing the bytes.
-/

namespace BuildHook.Utf8

/-- Whether `n` more continuation bytes behind the bits `value` always give a character, and never
one of ASCII. -/
def Fits : Nat → Nat → Prop
  | 0, value => value.isValidChar ∧ 128 ≤ value
  | n + 1, value => ∀ b, Fits n (extend value b)

theorem toNat_ofNat {n : Nat} (valid : n.isValidChar) : (Char.ofNat n).toNat = n :=
  congrArg Char.toNat (dif_pos valid)

theorem lead?_fits {b c : UInt8} {l : Lead} (found : lead? b = some l) (low : l.low ≤ c)
    (high : c ≤ l.high) : Fits l.more (extend l.payload c) := by
  unfold lead? at found
  -- one case for each range of leading bytes; the narrowed ranges keep out what is no character
  repeat' split at found
  all_goals simp only [Option.some.injEq, reduceCtorEq] at found
  all_goals subst found
  all_goals simp only [UInt8.lt_iff_toNat_lt, UInt8.le_iff_toNat_le, ← UInt8.toNat_inj] at *
  all_goals simp [Fits, extend, Nat.isValidChar] at *
  all_goals omega

theorem continuations_scalar {n value : Nat} {bs rest : Bytes} {c : Char} (fits : Fits n value)
    (read : continuations n value bs = .scalar c rest) : 128 ≤ c.toNat := by
  induction n generalizing value bs with
  | zero =>
    cases read
    rw [toNat_ofNat fits.1]
    exact fits.2
  | succ n ih =>
    cases bs with
    | nil => cases read
    | cons b bs =>
      unfold continuations at read
      split at read
      · exact ih (fits b) read
      · cases read

/-- An ASCII character is read from the one byte that it is. -/
theorem front_ascii {b : UInt8} {bs rest : Bytes} {c : Char} (read : front b bs = .scalar c rest)
    (ascii : c.toNat < 128) : b < 0x80 := by
  unfold front at read
  split at read
  · assumption
  · split at read
    · cases read
    · next l found =>
      split at read
      · cases read
      · next d ds =>
        split at read
        · next range =>
          rw [Bool.and_eq_true_iff, decide_eq_true_iff, decide_eq_true_iff] at range
          have high := continuations_scalar (lead?_fits found range.1 range.2) read
          omega
        · cases read

theorem front_of_lt {b : UInt8} (ascii : b < 0x80) (bs : Bytes) :
    front b bs = .scalar (Char.ofNat b.toNat) bs := if_pos ascii

/-- The byte of an ASCII character. -/
theorem encodeChar_ascii {c : Char} (ascii : c.toNat < 128) :
    encodeChar c = [UInt8.ofNat c.toNat] := by
  have small : c.val ≤ 127 := UInt32.le_iff_toNat_le.mpr (Nat.le_of_lt_succ ascii)
  exact String.utf8EncodeChar_eq_singleton (Char.utf8Size_eq_one_iff.mpr small)

theorem decodeLossyChars_cons (b : UInt8) (bs : Bytes) :
    decodeLossyChars (b :: bs) = match front b bs with
      | .scalar c rest => c :: decodeLossyChars rest
      | .refused rest => '\uFFFD' :: decodeLossyChars rest := by
  rw [decodeLossyChars]
  split <;> simp_all

theorem decodeLossyChars_eq_iff {text : List Char} (ascii : ∀ c ∈ text, c.toNat < 128)
    (bytes : Bytes) : decodeLossyChars bytes = text ↔ bytes = text.flatMap encodeChar := by
  induction text generalizing bytes with
  | nil =>
    cases bytes with
    | nil => simp [decodeLossyChars]
    | cons b bs =>
      rw [decodeLossyChars_cons]
      cases front b bs <;> simp
  | cons c text ih =>
    have hc : c.toNat < 128 := ascii c List.mem_cons_self
    have rest := ih fun c hc => ascii c (List.mem_cons_of_mem _ hc)
    rw [List.flatMap_cons, encodeChar_ascii hc]
    cases bytes with
    | nil => simp [decodeLossyChars]
    | cons b bs =>
      rw [decodeLossyChars_cons]
      constructor
      · intro read
        cases hf : front b bs with
        | refused after =>
          rw [hf] at read
          cases read
          exact absurd hc (by decide)
        | scalar d after =>
          rw [hf] at read
          cases read
          have small := front_ascii hf hc
          rw [front_of_lt small] at hf
          cases hf
          rw [toNat_ofNat (.inl (Nat.lt_trans b.toNat_lt (by decide))), UInt8.ofNat_toNat,
            List.singleton_append, ← (rest bs).mp rfl]
      · intro same
        cases same
        have byte : (UInt8.ofNat c.toNat).toNat = c.toNat :=
          UInt8.toNat_ofNat_of_lt' (Nat.lt_trans hc (by decide))
        have small : UInt8.ofNat c.toNat < 0x80 := by
          rw [UInt8.lt_iff_toNat_lt, byte]
          exact hc
        rw [front_of_lt small, byte, Char.ofNat_toNat]
        exact congrArg (c :: ·) ((rest _).mpr rfl)

/-- A byte list is read as an ASCII text exactly when it is the bytes of that text. -/
theorem decodeLossy_eq_iff {text : String} (ascii : ∀ c ∈ text.toList, c.toNat < 128)
    (bytes : Bytes) : decodeLossy bytes = text ↔ bytes = encode text := by
  rw [encode, ← decodeLossyChars_eq_iff ascii, decodeLossy, ← String.toList_inj,
    String.toList_ofList]

end BuildHook.Utf8
