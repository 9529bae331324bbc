import BuildHook.Json.NumberReader
import BuildHook.Proofs.Json.Reading

/-!
# Passing numbers

A number is passed part by part: digits, a fraction and an exponent. Each part ends where the next
byte does not go on with it, so a number is passed whole if nothing behind it goes on with it.

## Main results

`reads_skipNumber`, on everything that may stand behind a sign.
-/

namespace BuildHook.Json.Reader

open Utf8 (encodeChar encodeChars encodeChars_cons encodeChars_append)

variable {text rest : List Char}

/-- Whatever is next can be looked at. -/
theorem reads_peek_head (text : List Char) : Reads peek text (encodeChars text).head? text :=
  fun place => ⟨place, rfl⟩

theorem lt_of_isDigit {c : Char} (digit : c.isDigit = true) : c.toNat < 128 := by
  rw [isDigit_iff] at digit
  omega

theorem isDigit_ofNat {c : Char} (ascii : c.toNat < 128) :
    isDigit (UInt8.ofNat c.toNat) = c.isDigit := by
  rw [Bool.eq_iff_iff, isDigit_iff, isDigit, Bool.and_eq_true, decide_eq_true_iff,
    decide_eq_true_iff, UInt8.le_iff_toNat_le, UInt8.le_iff_toNat_le, UInt8.toNat_ofNat',
    Nat.mod_eq_of_lt (by omega)]
  exact Iff.rfl

/-- The first byte of a text, if it is ASCII, is its first character. -/
theorem head?_encodeChars {b : UInt8} (head : (encodeChars text).head? = some b) :
    (∃ c ∈ text.head?, c.toNat < 128 ∧ b = UInt8.ofNat c.toNat) ∨ 128 ≤ b.toNat := by
  cases text with
  | nil => cases head
  | cons c cs =>
    by_cases ascii : c.toNat < 128
    · rw [encodeChars_cons_ascii ascii, List.head?_cons, Option.some.injEq] at head
      exact .inl ⟨c, rfl, ascii, head.symm⟩
    · right
      apply Utf8.le_of_mem_encodeChar (c := c) (Nat.le_of_not_lt ascii)
      rw [encodeChars_cons, List.head?_append_of_ne_nil _ (Utf8.encodeChar_ne_nil c)] at head
      exact List.mem_of_head? head

/-- No first byte is the code of an ASCII character that is not the first one. -/
theorem head?_encodeChars_ne {d : Char} (ascii : d.toNat < 128) (other : text.head? ≠ some d) :
    (encodeChars text).head? ≠ some (UInt8.ofNat d.toNat) := by
  intro head
  rcases head?_encodeChars head with ⟨c, first, small, same⟩ | high
  · exact ofNat_toNat_ne ascii small (fun eq => other (eq ▸ first)) same
  · rw [UInt8.toNat_ofNat'] at high
    omega

theorem any_isDigit_head? (other : ∀ c ∈ text.head?, c.isDigit = false) :
    (encodeChars text).head?.any isDigit = false := by
  rw [Option.any_eq_false]
  intro b head
  rcases head?_encodeChars head with ⟨c, first, small, rfl⟩ | high
  · rw [isDigit_ofNat small, other c first]
  · have beyond : ¬ b ≤ 57 := by
      rw [UInt8.le_iff_toNat_le]
      show ¬ b.toNat ≤ 57
      omega
    rw [isDigit, decide_eq_false beyond, Bool.and_false]

theorem takeDigits_append {ds : List Char} (digits : ∀ c ∈ ds, c.isDigit = true) {bytes : Bytes}
    (stop : bytes.head?.any isDigit = false) (place : Place) :
    ∃ after, takeDigits place (encodeChars ds ++ bytes) = (encodeChars ds, ⟨bytes, after⟩) := by
  induction ds generalizing place with
  | nil =>
    refine ⟨place, ?_⟩
    cases bytes with
    | nil => rfl
    | cons b bs =>
      rw [Utf8.encodeChars_nil, List.nil_append, takeDigits, if_neg (by simpa using stop)]
  | cons d ds ih =>
    have digit := digits d List.mem_cons_self
    have ascii := lt_of_isDigit digit
    obtain ⟨after, taken⟩ := ih (fun c mem => digits c (List.mem_cons_of_mem d mem))
      (place.after (UInt8.ofNat d.toNat))
    refine ⟨after, ?_⟩
    rw [encodeChars_cons_ascii ascii, List.cons_append, takeDigits,
      if_pos (by rw [isDigit_ofNat ascii, digit]), taken]

/-- All digits in front are taken. -/
theorem reads_digits {ds : List Char} (digits : ∀ c ∈ ds, c.isDigit = true)
    (stop : ∀ c ∈ rest.head?, c.isDigit = false) :
    Reads Reader.digits (ds ++ rest) (encodeChars ds) rest := by
  intro place
  obtain ⟨after, taken⟩ := takeDigits_append digits (any_isDigit_head? stop) place
  refine ⟨after, ?_⟩
  rw [encodeChars_append]
  show Except.ok ((takeDigits place (encodeChars ds ++ encodeChars rest)).1,
    (takeDigits place (encodeChars ds ++ encodeChars rest)).2) = _
  rw [taken]

/-! ## The parts of a number -/

/-- The digits of an exponent, of which the first is taken by itself. -/
theorem reads_exponentDigits {ds : List Char} (digits : IsDigits ds)
    (stop : ∀ c ∈ rest.head?, c.isDigit = false) :
    Reads (do
      match ← next with
      | none => fail .invalidNumber
      | some b =>
        if isDigit b then do
          let _ ← Reader.digits
        else fail .invalidNumber) (ds ++ rest) () rest := by
  obtain ⟨d, ds, rfl, digit, digits⟩ := digits.exists_cons
  have ascii := lt_of_isDigit digit
  apply (reads_next ascii _).bind
  dsimp only
  rw [if_pos (by rw [isDigit_ofNat ascii, digit])]
  exact (reads_digits digits stop).bind (reads_pure () rest)

theorem isExponentLetter_ofNat {letter : Char} (letters : letter ∈ ['e', 'E']) :
    letter.toNat < 128 ∧ isExponentLetter (some (UInt8.ofNat letter.toNat)) = true := by
  simp only [List.mem_cons, List.not_mem_nil, or_false] at letters
  rcases letters with rfl | rfl <;> decide

/-- An exponent whose letter is next is passed. -/
theorem reads_skipExponent {letter : Char} (letters : letter ∈ ['e', 'E']) {sign ds : List Char}
    (signs : sign ∈ [[], ['+'], ['-']]) (digits : IsDigits ds)
    (stop : ∀ c ∈ rest.head?, c.isDigit = false) :
    Reads skipExponent (letter :: (sign ++ (ds ++ rest))) () rest := by
  apply (reads_skip (isExponentLetter_ofNat letters).1 _).bind
  simp only [List.mem_cons, List.not_mem_nil, or_false] at signs
  rcases signs with rfl | rfl | rfl
  · obtain ⟨d, ds', rfl, digit, -⟩ := digits.exists_cons
    have ascii := lt_of_isDigit digit
    apply (reads_peek ascii _).bind
    have plus := ofNat_toNat_ne ascii (d := '+') (by decide) (by rintro rfl; cases digit)
    have minus := ofNat_toNat_ne ascii (d := '-') (by decide) (by rintro rfl; cases digit)
    rw [if_neg]
    · exact reads_exponentDigits digits stop
    · simpa using And.intro plus minus
  · apply (reads_peek (by decide) _).bind
    exact (reads_skip (by decide) _).bind (reads_exponentDigits digits stop)
  · apply (reads_peek (by decide) _).bind
    exact (reads_skip (by decide) _).bind (reads_exponentDigits digits stop)

/-- An exponent is passed, if there is one. -/
theorem reads_exponent {exponent : List Char} (exponents : IsExponent exponent)
    (ended : Ended rest) :
    Reads (do if isExponentLetter (← peek) then skipExponent) (exponent ++ rest) () rest := by
  rcases exponents with rfl | ⟨letter, letters, sign, signs, ds, digits, rfl⟩
  · have small : (encodeChars rest).head? ≠ some 101 :=
      head?_encodeChars_ne (d := 'e') (by decide) fun first => (ended 'e' first).2 (by decide)
    have large : (encodeChars rest).head? ≠ some 69 :=
      head?_encodeChars_ne (d := 'E') (by decide) fun first => (ended 'E' first).2 (by decide)
    apply (reads_peek_head rest).bind
    rw [if_neg]
    · exact reads_pure () rest
    · simpa [isExponentLetter] using And.intro small large
  · obtain ⟨ascii, exponent⟩ := isExponentLetter_ofNat letters
    rw [List.cons_append, List.append_assoc]
    apply (reads_peek ascii _).bind
    rw [if_pos exponent]
    exact reads_skipExponent letters signs digits fun c first => (ended c first).1

/-- An exponent does not begin like a fraction. -/
theorem IsExponent.head {exponent : List Char} (exponents : IsExponent exponent)
    (ended : Ended rest) :
    ∀ c ∈ (exponent ++ rest).head?, c.isDigit = false ∧ c ≠ '.' := by
  intro c first
  rcases exponents with rfl | ⟨letter, letters, sign, -, ds, -, rfl⟩
  · obtain ⟨digit, mark⟩ := ended c first
    exact ⟨digit, fun point => mark (by rw [point]; decide)⟩
  · rw [List.cons_append, List.head?_cons, Option.mem_some_iff] at first
    subst first
    simp only [List.mem_cons, List.not_mem_nil, or_false] at letters
    rcases letters with rfl | rfl <;> decide

/-- What follows the whole part of a number is passed. -/
theorem reads_fraction {fraction exponent : List Char} (fractions : IsFraction fraction)
    (exponents : IsExponent exponent) (ended : Ended rest) :
    Reads (do
      if (← peek) = some 46 then do
        skip
        if (← Reader.digits).isEmpty then failAfter .invalidNumber
      if isExponentLetter (← peek) then skipExponent) (fraction ++ (exponent ++ rest)) () rest := by
  have head := IsExponent.head exponents ended
  rcases fractions with rfl | ⟨ds, digits, rfl⟩
  · apply (reads_peek_head _).bind
    rw [if_neg]
    · exact reads_exponent exponents ended
    · exact head?_encodeChars_ne (d := '.') (by decide) fun first => (head '.' first).2 rfl
  · rw [List.cons_append]
    apply (reads_peek (by decide) _).bind
    apply (reads_skip (by decide) _).bind
    apply (reads_digits digits.2 fun c first => (head c first).1).bind
    rw [if_neg]
    · exact reads_exponent exponents ended
    · obtain ⟨d, ds', rfl, digit, -⟩ := digits.exists_cons
      rw [encodeChars_cons_ascii (lt_of_isDigit digit)]
      exact Bool.false_ne_true

/-- A number without a sign is passed. -/
theorem reads_skipNumber {whole fraction exponent : List Char} (wholes : IsWhole whole)
    (fractions : IsFraction fraction) (exponents : IsExponent exponent) (ended : Ended rest) :
    Reads skipNumber (whole ++ (fraction ++ (exponent ++ rest))) () rest := by
  have behind := reads_fraction fractions exponents ended
  have stop : ∀ c ∈ (fraction ++ (exponent ++ rest)).head?, c.isDigit = false := by
    intro c first
    rcases fractions with rfl | ⟨ds, -, rfl⟩
    · exact (IsExponent.head exponents ended c first).1
    · cases first
      rfl
  rcases wholes with rfl | ⟨digits, front⟩
  · rw [List.cons_append, List.nil_append]
    apply (reads_next (by decide) _).bind
    dsimp only
    rw [if_neg (by decide), if_pos (by decide)]
    apply (reads_peek_head _).bind
    rw [if_neg (by rw [any_isDigit_head? stop]; exact Bool.false_ne_true)]
    exact behind
  · obtain ⟨d, ds, rfl, digit, digits⟩ := digits.exists_cons
    have ascii := lt_of_isDigit digit
    have zero : UInt8.ofNat d.toNat ≠ 48 :=
      ofNat_toNat_ne ascii (d := '0') (by decide) fun same => front (by rw [same]; rfl)
    apply (reads_next ascii _).bind
    dsimp only
    rw [if_neg (by rw [isDigit_ofNat ascii, digit]; decide), if_neg zero]
    apply (reads_digits digits stop).bind
    exact behind

end BuildHook.Json.Reader
