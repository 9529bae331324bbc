import BuildHook.Json.StringReader
import BuildHook.Proofs.Json.Reading

/-!
# Reading and passing string literals

A literal is read byte by byte, while the grammar spells it character by character. Between two
spelled characters the reader is in the mode `plain`, and what it has gathered are the bytes of the
characters that were spelled so far.

## Main results

`reads_stringBody` and `reads_skipStringBody`: a literal is read as the characters that it spells,
and passed up to the same place.
-/

namespace BuildHook.Json

open Utf8 (encodeChar encodeChars encodeChars_cons encodeChar_ascii)

/-- The bytes that stand for themselves inside a literal. -/
def IsPlainByte (b : UInt8) : Prop := b ≠ 34 ∧ b ≠ 92 ∧ ¬ b < 32

theorem isPlainByte_of_mem {c : Char} (quote : c ≠ '"') (slash : c ≠ '\\')
    (printed : 0x20 ≤ c.toNat) {b : UInt8} (mem : b ∈ encodeChar c) : IsPlainByte b := by
  by_cases ascii : c.toNat < 128
  · rw [encodeChar_ascii ascii, List.mem_singleton] at mem
    subst mem
    refine ⟨Reader.ofNat_toNat_ne ascii (by decide) quote,
      Reader.ofNat_toNat_ne ascii (by decide) slash, ?_⟩
    rw [UInt8.lt_iff_toNat_lt, UInt8.toNat_ofNat']
    show ¬ _ < 32
    omega
  · have high := Utf8.le_of_mem_encodeChar (Nat.le_of_not_lt ascii) mem
    simp only [IsPlainByte, ne_eq, ← UInt8.toNat_inj, UInt8.lt_iff_toNat_lt]
    refine ⟨?_, ?_, ?_⟩
    · show ¬ _ = 34
      omega
    · show ¬ _ = 92
      omega
    · show ¬ _ < 32
      omega

theorem digitValue?_of_isHexDigit {value : Nat} {c : Char} (digit : IsHexDigit value c) :
    c.toNat < 128 ∧ Hex.digitValue? (UInt8.ofNat c.toNat) = some value := by
  obtain ⟨small, rfl | rfl⟩ := digit
  all_goals
    revert value
    decide

theorem hexValue?_digits {values : List Nat} {cs : List Char}
    (digits : List.Forall₂ IsHexDigit values cs) :
    hexValue? (encodeChars cs)
      = some (values.foldl (fun value digit => value * 16 + digit) 0) := by
  unfold hexValue?
  generalize 0 = value
  induction digits generalizing value with
  | nil => rfl
  | cons digit _ ih =>
    obtain ⟨ascii, read⟩ := digitValue?_of_isHexDigit digit
    rw [Reader.encodeChars_cons_ascii ascii, List.foldl_cons, List.foldl_cons, read]
    exact ih _

/-- Four digits are four bytes that stand for the same number. -/
theorem IsQuad.exists_bytes {n : Nat} {cs : List Char} (quad : IsQuad n cs) :
    ∃ a b c d, encodeChars cs = [a, b, c, d] ∧ hexValue? [a, b, c, d] = some n := by
  obtain ⟨values, four, digits, rfl⟩ := quad
  have bytes : (encodeChars cs).length = 4 := by
    rw [← four]
    clear four
    induction digits with
    | nil => rfl
    | cons digit _ ih =>
      rw [Reader.encodeChars_cons_ascii (digitValue?_of_isHexDigit digit).1, List.length_cons, ih,
        List.length_cons]
  have value := hexValue?_digits digits
  match encodeChars cs, bytes, value with
  | [a, b, c, d], _, value => exact ⟨a, b, c, d, rfl, value⟩

theorem shortEscape?_of_mem : ∀ pair ∈ shortEscapes, pair.1.toNat < 128 ∧ pair.1 ≠ 'u' ∧
    pair.2.toNat < 128 ∧
    shortEscape? (UInt8.ofNat pair.1.toNat) = some (UInt8.ofNat pair.2.toNat) := by
  decide

/-! ## Reading -/

theorem hexStep_scalar {digits : Bytes} {c : Char} (number : hexValue? digits = some c.toNat) :
    hexStep none digits = .read .plain (encodeChar c) := by
  have valid := Utf8.toNat_valid c
  unfold hexStep
  rw [number]
  dsimp only
  rw [if_neg (by simp; omega), if_neg (by simp; omega), codePoint, Char.ofNat_toNat]

theorem hexStep_high {digits : Bytes} {high : Nat} (number : hexValue? digits = some high)
    (ge : 0xD800 ≤ high) (le : high ≤ 0xDBFF) :
    hexStep none digits = .read (.partnerSlash high) [] := by
  unfold hexStep
  rw [number]
  dsimp only
  rw [if_neg (by simp; omega), if_pos (by simp; omega)]

theorem hexStep_low {digits : Bytes} {c : Char} {high low : Nat}
    (number : hexValue? digits = some low) (ge : 0xDC00 ≤ low) (le : low ≤ 0xDFFF)
    (code : c.toNat = 0x10000 + (high - 0xD800) * 0x400 + (low - 0xDC00)) :
    hexStep (some high) digits = .read .plain (encodeChar c) := by
  unfold hexStep
  rw [number]
  dsimp only
  rw [if_pos (by simp; omega), codePoint, ← code, Char.ofNat_toNat]

theorem readLiteral_plain {bs : Bytes} (plain : ∀ b ∈ bs, IsPlainByte b) (value rest : Bytes)
    (place : Place) : ∃ after,
      readLiteral .plain value place (bs ++ rest)
        = readLiteral .plain (bs.reverse ++ value) after rest := by
  induction bs generalizing value place with
  | nil => exact ⟨place, rfl⟩
  | cons b bs ih =>
    obtain ⟨quote, slash, printed⟩ := plain b List.mem_cons_self
    obtain ⟨after, read⟩ := ih (fun b mem => plain b (List.mem_cons_of_mem _ mem)) (b :: value)
      (place.after b)
    refine ⟨after, ?_⟩
    rw [List.cons_append, readLiteral, StringMode.step, if_neg quote, if_neg slash,
      if_neg printed, List.reverse_cons, List.append_assoc]
    exact read

/-- What four digits do, whatever was read before them. -/
theorem readLiteral_quad {n : Nat} {cs : List Char} (quad : IsQuad n cs) (high : Option Nat)
    {mode : StringMode} {bytes : Bytes} (value rest : Bytes) (place : Place)
    (step : ∀ digits, hexValue? digits = some n → hexStep high digits = .read mode bytes) : ∃ after,
      readLiteral (.hex high []) value place (encodeChars cs ++ rest)
        = readLiteral mode (bytes.reverse ++ value) after rest := by
  obtain ⟨a, b, c, d, four, number⟩ := quad.exists_bytes
  refine ⟨(((place.after a).after b).after c).after d, ?_⟩
  rw [four]
  simp [readLiteral, StringMode.step, step [a, b, c, d] number]

/-- The letter `u` behind a backslash begins an escape of four digits. -/
theorem readLiteral_code (cs : List Char) (value rest : Bytes) (place : Place) :
    readLiteral .plain value place (encodeChars ('\\' :: 'u' :: cs) ++ rest)
      = readLiteral (.hex none []) value ((place.after 92).after 117) (encodeChars cs ++ rest) := by
  rw [Reader.encodeChars_cons_ascii (by decide), Reader.encodeChars_cons_ascii (by decide)]
  rfl

/-- Behind a leading surrogate the escape of its partner must follow. -/
theorem readLiteral_partner (high : Nat) (cs : List Char) (value rest : Bytes) (place : Place) :
    readLiteral (.partnerSlash high) value place (encodeChars ('\\' :: 'u' :: cs) ++ rest)
      = readLiteral (.hex (some high) []) value ((place.after 92).after 117)
        (encodeChars cs ++ rest) := by
  rw [Reader.encodeChars_cons_ascii (by decide), Reader.encodeChars_cons_ascii (by decide)]
  rfl

/-- A spelled character is read as its bytes. -/
theorem SpellsChar.readLiteral {c : Char} {spelled : List Char} (spells : SpellsChar c spelled)
    (value rest : Bytes) (place : Place) : ∃ after,
      Json.readLiteral .plain value place (encodeChars spelled ++ rest)
        = Json.readLiteral .plain ((encodeChar c).reverse ++ value) after rest := by
  cases spells with
  | plain quote slash printed =>
    rw [encodeChars_cons, Utf8.encodeChars_nil, List.append_nil]
    apply readLiteral_plain
    intro b mem
    exact isPlainByte_of_mem quote slash printed mem
  | @short letter c mem =>
    obtain ⟨ascii, other, small, escape⟩ := shortEscape?_of_mem _ mem
    have code : UInt8.ofNat letter.toNat ≠ 117 := Reader.ofNat_toNat_ne ascii (by decide) other
    refine ⟨(place.after 92).after (UInt8.ofNat letter.toNat), ?_⟩
    rw [Reader.encodeChars_cons_ascii (by decide), Reader.encodeChars_cons_ascii ascii,
      encodeChar_ascii small]
    simp [Json.readLiteral, StringMode.step, code, escape]
  | code quad =>
    rw [readLiteral_code]
    exact readLiteral_quad quad none value rest _ fun _ number => hexStep_scalar number
  | @pair c high low digits others ge le ge' le' code quad partner =>
    have split : digits ++ '\\' :: 'u' :: others = digits ++ ('\\' :: 'u' :: others) := rfl
    rw [readLiteral_code, split, Utf8.encodeChars_append, List.append_assoc]
    obtain ⟨middle, first⟩ := readLiteral_quad quad none value
      (encodeChars ('\\' :: 'u' :: others) ++ rest) ((place.after 92).after 117)
      fun _ number => hexStep_high number ge le
    rw [first, readLiteral_partner]
    exact readLiteral_quad partner (some high) value rest _ fun _ number =>
      hexStep_low number ge' le' code

theorem SpellsBody.readLiteral {cs text rest : List Char} (spelled : SpellsBody cs text rest)
    (read : List Char) (place : Place) : ∃ after,
      Json.readLiteral .plain (encodeChars read).reverse place (encodeChars text)
        = .ok (encodeChars (read ++ cs), ⟨encodeChars rest, after⟩) := by
  induction spelled generalizing read place with
  | close =>
    refine ⟨place.after 34, ?_⟩
    rw [Reader.encodeChars_cons_ascii (by decide), List.append_nil]
    have complete : refusal? (encodeChars read) (place.after 34) = none := by
      rw [refusal?, Utf8.refusedAt?_encodeChars, Option.map_none]
    simp [Json.readLiteral, StringMode.step, complete]
  | @char c cs spelled text rest spells _ ih =>
    rw [Utf8.encodeChars_append]
    obtain ⟨middle, first⟩ := spells.readLiteral (encodeChars read).reverse (encodeChars text) place
    obtain ⟨after, second⟩ := ih (read ++ [c]) middle
    refine ⟨after, ?_⟩
    rw [first, ← List.reverse_append]
    simpa [encodeChars_cons] using second

/-! ## Passing -/

theorem passLiteral_plain {bs : Bytes} (plain : ∀ b ∈ bs, IsPlainByte b) (rest : Bytes)
    (place : Place) :
    ∃ after, passLiteral .plain place (bs ++ rest) = passLiteral .plain after rest := by
  induction bs generalizing place with
  | nil => exact ⟨place, rfl⟩
  | cons b bs ih =>
    obtain ⟨quote, slash, printed⟩ := plain b List.mem_cons_self
    obtain ⟨after, passed⟩ := ih (fun b mem => plain b (List.mem_cons_of_mem _ mem)) (place.after b)
    refine ⟨after, ?_⟩
    rw [List.cons_append, passLiteral, if_neg quote, if_neg slash, if_neg printed, passed]

theorem passLiteral_code {n : Nat} {cs : List Char} (quad : IsQuad n cs) (rest : Bytes)
    (place : Place) : ∃ after, passLiteral .plain place (encodeChars ('\\' :: 'u' :: cs) ++ rest)
      = passLiteral .plain after rest := by
  obtain ⟨a, b, c, d, four, number⟩ := quad.exists_bytes
  refine ⟨(((((place.after 92).after 117).after a).after b).after c).after d, ?_⟩
  rw [Reader.encodeChars_cons_ascii (by decide), Reader.encodeChars_cons_ascii (by decide), four]
  simp [passLiteral, number]

/-- A spelled character is passed. -/
theorem SpellsChar.passLiteral {c : Char} {spelled : List Char} (spells : SpellsChar c spelled)
    (rest : Bytes) (place : Place) : ∃ after,
      Json.passLiteral .plain place (encodeChars spelled ++ rest)
        = Json.passLiteral .plain after rest := by
  cases spells with
  | plain quote slash printed =>
    rw [encodeChars_cons, Utf8.encodeChars_nil, List.append_nil]
    exact passLiteral_plain (fun b mem => isPlainByte_of_mem quote slash printed mem) rest place
  | @short letter c mem =>
    obtain ⟨ascii, other, -, escape⟩ := shortEscape?_of_mem _ mem
    have code : UInt8.ofNat letter.toNat ≠ 117 := Reader.ofNat_toNat_ne ascii (by decide) other
    refine ⟨(place.after 92).after (UInt8.ofNat letter.toNat), ?_⟩
    rw [Reader.encodeChars_cons_ascii (by decide), Reader.encodeChars_cons_ascii ascii]
    simp [Json.passLiteral, code, escape]
  | code quad => exact passLiteral_code quad rest place
  | @pair c high low digits others _ _ _ _ _ quad partner =>
    have split : '\\' :: 'u' :: (digits ++ '\\' :: 'u' :: others)
        = ('\\' :: 'u' :: digits) ++ ('\\' :: 'u' :: others) := rfl
    rw [split, Utf8.encodeChars_append, List.append_assoc]
    obtain ⟨middle, first⟩ :=
      passLiteral_code quad (encodeChars ('\\' :: 'u' :: others) ++ rest) place
    rw [first]
    exact passLiteral_code partner rest middle

theorem SpellsBody.passLiteral {cs text rest : List Char} (spelled : SpellsBody cs text rest)
    (place : Place) : ∃ after,
      Json.passLiteral .plain place (encodeChars text) = .ok ⟨encodeChars rest, after⟩ := by
  induction spelled generalizing place with
  | close =>
    rw [Reader.encodeChars_cons_ascii (by decide)]
    exact ⟨place.after 34, rfl⟩
  | @char c cs spelled text rest spells _ ih =>
    obtain ⟨middle, first⟩ := spells.passLiteral (encodeChars text) place
    rw [Utf8.encodeChars_append, first]
    exact ih middle

namespace Reader

/-- A literal is read as the characters that it spells. -/
theorem reads_stringBody {cs text rest : List Char} (spelled : SpellsBody cs text rest) :
    Reads stringBody text (String.ofList cs) rest := by
  intro place
  obtain ⟨after, read⟩ := spelled.readLiteral [] place
  rw [List.nil_append, Utf8.encodeChars_nil, List.reverse_nil] at read
  refine ⟨after, ?_⟩
  simp only [stringBody, StateT.run_bind, StateT.run_get, pure_bind, read, StateT.run_monadLift,
    monadLift_self, bind_pure_comp, Except.map_ok, StateT.run_set]
  dsimp only [bind, Except.bind]
  rw [Utf8.decode?_encodeChars]
  rfl

/-- A literal is passed up to its end. -/
theorem reads_skipStringBody {cs text rest : List Char} (spelled : SpellsBody cs text rest) :
    Reads skipStringBody text () rest := by
  intro place
  obtain ⟨after, passed⟩ := spelled.passLiteral place
  refine ⟨after, ?_⟩
  simp [skipStringBody, passed]

/-- The name of a member is the text that its literal spells. -/
theorem reads_memberName {name : String} {text rest : List Char}
    (spelled : SpellsBody name.toList text rest) : Reads memberName ('"' :: text) name rest := by
  apply (reads_skip (by decide) text).bind
  rw [← String.ofList_toList (s := name)]
  exact reads_stringBody spelled

end Reader

end BuildHook.Json
