import BuildHook.Json.Skip
import BuildHook.Proofs.Json.Literal
import BuildHook.Proofs.Json.Number

/-!
# Passing values of any depth

The loop that passes values keeps the open brackets on a stack, while the grammar nests one value in
another. `Passes` and `PassesOn` say of a text that the loop, begun before or behind a value with
these brackets open, comes to a certain place; both go through a value by recursion on its spelling.

## Main results

`Spells.passes` is this recursion, `reads_skipValue` the result for a value by itself.
-/

namespace BuildHook.Json

open Utf8 (encodeChars length_le_encodeChars)

/-- The character that closes a bracket. -/
def Bracket.mark : Bracket → Char
  | .list => ']'
  | .object => '}'

theorem Bracket.isToken_mark (bracket : Bracket) : IsToken bracket.mark := by
  cases bracket <;> decide

namespace Reader

variable {text rest : List Char}

/-- A number is passed with its sign. -/
theorem reads_skipFront_number {literal : List Char} (blanks : Blanks text (literal ++ rest))
    (number : IsNumber literal) (ended : Ended rest) : Reads skipFront text none rest := by
  obtain ⟨sign, signs, whole, fraction, exponent, wholes, fractions, exponents, rfl⟩ := number
  have behind := reads_skipNumber wholes fractions exponents ended
  simp only [List.append_assoc] at blanks
  simp only [List.mem_cons, List.not_mem_nil, or_false] at signs
  rcases signs with rfl | rfl
  · obtain ⟨d, ds, rfl, digit⟩ := wholes.exists_cons
    have ascii := lt_of_isDigit digit
    have other (c : Char) (small : c.toNat < 128) (plain : c.isDigit = false) :
        UInt8.ofNat d.toNat ≠ UInt8.ofNat c.toNat :=
      ofNat_toNat_ne ascii small (by rintro rfl; rw [digit] at plain; cases plain)
    apply (reads_peekToken blanks (IsOpening.isToken (.inr digit))).bind
    dsimp only
    have n : UInt8.ofNat d.toNat ≠ 110 := other 'n' (by decide) (by decide)
    have t : UInt8.ofNat d.toNat ≠ 116 := other 't' (by decide) (by decide)
    have f : UInt8.ofNat d.toNat ≠ 102 := other 'f' (by decide) (by decide)
    have minus : UInt8.ofNat d.toNat ≠ 45 := other '-' (by decide) (by decide)
    rw [if_neg n, if_neg t, if_neg f, if_neg minus, if_pos (by rw [isDigit_ofNat ascii, digit])]
    exact behind.bind (reads_pure none rest)
  · apply (reads_peekToken blanks (by decide)).bind
    exact (reads_skip (by decide) _).bind (behind.bind (reads_pure none rest))

/-- The loop behind a value, or behind the opening of a bracket. -/
def skipOn (afterValue : Bool) (turns : Bytes) (brackets : List Bracket) : Reader Unit := do
  match ← skipClosings afterValue brackets with
  | [] => return ()
  | bracket :: outer => do
    if bracket = .object then skipName
    skipNested turns (bracket :: outer)

theorem skipNested_cons (b : UInt8) (turns : Bytes) (brackets : List Bracket) :
    skipNested (b :: turns) brackets = skipFront >>= fun opened =>
      skipOn opened.isNone turns (opened.toList ++ brackets) := by
  rw [skipNested]
  congr 1
  funext opened
  cases opened <;> rfl

/-- Before a value, with these brackets open, the loop comes to `final`. -/
def Passes (brackets : List Bracket) (text final : List Char) : Prop :=
  ∀ turns : Bytes, text.length < turns.length → Reads (skipNested turns brackets) text () final

/-- Behind a value, or behind the opening of the innermost bracket, the loop comes to `final`. -/
def PassesOn (afterValue : Bool) (brackets : List Bracket) (text final : List Char) : Prop :=
  ∀ turns : Bytes, text.length < turns.length →
    Reads (skipOn afterValue turns brackets) text () final

variable {brackets : List Bracket} {final between : List Char}

theorem passesOn_nil (text : List Char) : PassesOn true [] text text := by
  intro turns _
  exact (reads_pure [] text).bind (reads_pure () text)

/-- A scalar, or the opening of a bracket, is passed. -/
theorem Passes.of_front {opened : Option Bracket} (front : Reads skipFront text opened rest)
    (shorter : rest.length < text.length)
    (behind : PassesOn opened.isNone (opened.toList ++ brackets) rest final) :
    Passes brackets text final := by
  intro turns enough
  cases turns with
  | nil => cases enough
  | cons b turns =>
    rw [List.length_cons] at enough
    rw [skipNested_cons]
    exact front.bind (behind turns (by omega))

/-- A closing byte is passed, and the loop goes on behind a value of the next bracket. -/
theorem PassesOn.close (bracket : Bracket) {afterValue : Bool}
    (blanks : Blanks text (bracket.mark :: rest)) (behind : PassesOn true brackets rest final) :
    PassesOn afterValue (bracket :: brackets) text final := by
  intro turns enough
  have shorter := blanks.length_le
  rw [List.length_cons] at shorter
  have closing : UInt8.ofNat (bracket.mark).toNat = bracket.closing := by cases bracket <;> rfl
  have comma : ¬ (decide (bracket.closing = 44) && afterValue) = true := by
    cases bracket <;> cases afterValue <;> decide
  rw [skipOn, skipClosings, bind_assoc]
  apply (reads_peekToken blanks (bracket.isToken_mark)).bind
  dsimp only
  rw [closing, if_neg comma, if_pos rfl, bind_assoc]
  exact (reads_skip (bracket.isToken_mark).1 rest).bind (behind turns (by omega))

/-- Up to where the next value inside of the innermost bracket, or its name, begins. -/
theorem reads_skipClosings (bracket : Bracket) (brackets : List Bracket) {first : Bool} {c : Char}
    (leads : Leads first text (c :: rest)) (token : IsToken c)
    (other : c ≠ bracket.mark) :
    ∃ between, Blanks between (c :: rest) ∧ between.length ≤ text.length ∧
      Reads (skipClosings (!first) (bracket :: brackets)) text (bracket :: brackets) between := by
  have closing : UInt8.ofNat c.toNat ≠ bracket.closing := by
    have ne := ofNat_toNat_ne token.1 (bracket.isToken_mark).1 other
    cases bracket <;> exact ne
  cases leads with
  | first blanks =>
    refine ⟨c :: rest, .done, blanks.length_le, ?_⟩
    apply (reads_peekToken blanks token).bind
    dsimp only
    rw [if_neg (by simp), if_neg closing]
    exact reads_pure _ _
  | later before behind =>
    have shorter := before.length_le
    rw [List.length_cons] at shorter
    refine ⟨_, behind, by omega, ?_⟩
    apply (reads_peekToken before (by decide)).bind
    exact (reads_skip (by decide) _).bind (reads_pure _ _)

/-- The name of a member is passed with its colon. -/
theorem reads_skipName {name : List Char} {front named : List Char}
    (blanks : Blanks text ('"' :: front)) (spelled : SpellsBody name front named)
    (behind : Blanks named (':' :: rest)) : Reads skipName text () rest := by
  apply (reads_peekToken blanks (by decide)).bind
  apply (reads_skip (by decide) _).bind
  apply (reads_skipStringBody spelled).bind
  exact (reads_peekToken behind (by decide)).bind (reads_skip (by decide) rest)

/-- Another item is passed. -/
theorem PassesOn.item {first : Bool} {c : Char} (leads : Leads first text (c :: rest))
    (opening : IsOpening c)
    (passes : ∀ text, Blanks text (c :: rest) → Passes (.list :: brackets) text final) :
    PassesOn (!first) (.list :: brackets) text final := by
  intro turns enough
  obtain ⟨between, blanks, shorter, reads⟩ :=
    reads_skipClosings .list brackets leads opening.isToken (opening.ne (by decide))
  exact reads.bind (passes between blanks turns (by omega))

/-- Another member is passed. -/
theorem PassesOn.member {first : Bool} {name front named colon : List Char}
    (leads : Leads first text ('"' :: front)) (spelled : SpellsBody name front named)
    (behind : Blanks named (':' :: colon)) (passes : Passes (.object :: brackets) colon final) :
    PassesOn (!first) (.object :: brackets) text final := by
  intro turns enough
  obtain ⟨between, blanks, shorter, reads⟩ :=
    reads_skipClosings .object brackets leads (by decide) (by decide)
  have below := blanks.length_le
  have := spelled.length_lt
  have := behind.length_le
  simp only [List.length_cons] at *
  apply reads.bind
  exact (reads_skipName blanks spelled behind).bind (passes turns (by omega))

/-- A word is passed. -/
theorem reads_skipFront_word (c : Char) (cs : List Char)
    (word : (c, cs) ∈ [('n', ['u', 'l', 'l']), ('t', ['r', 'u', 'e']), ('f', ['a', 'l', 's', 'e'])])
    (blanks : Blanks text (c :: (cs ++ rest))) : Reads skipFront text none rest := by
  simp only [List.mem_cons, Prod.mk.injEq, List.not_mem_nil, or_false] at word
  rcases word with ⟨rfl, rfl⟩ | ⟨rfl, rfl⟩ | ⟨rfl, rfl⟩
  · have letters := reads_word ['u', 'l', 'l'] (by simp) rest
    apply (reads_peekToken blanks (by decide)).bind
    exact (reads_skip (by decide) _).bind (letters.bind (reads_pure none rest))
  · have letters := reads_word ['r', 'u', 'e'] (by simp) rest
    apply (reads_peekToken blanks (by decide)).bind
    exact (reads_skip (by decide) _).bind (letters.bind (reads_pure none rest))
  · have letters := reads_word ['a', 'l', 's', 'e'] (by simp) rest
    apply (reads_peekToken blanks (by decide)).bind
    exact (reads_skip (by decide) _).bind (letters.bind (reads_pure none rest))

theorem reads_skipFront_string {cs body : List Char} (blanks : Blanks text ('"' :: body))
    (spelled : SpellsBody cs body rest) : Reads skipFront text none rest := by
  apply (reads_peekToken blanks (by decide)).bind
  apply (reads_skip (by decide) _).bind
  exact (reads_skipStringBody spelled).bind (reads_pure none rest)

theorem reads_skipFront_list (blanks : Blanks text ('[' :: rest)) :
    Reads skipFront text (some .list) rest :=
  (reads_peekToken blanks (by decide)).bind ((reads_skip (by decide) rest).bind (reads_pure _ rest))

theorem reads_skipFront_object (blanks : Blanks text ('{' :: rest)) :
    Reads skipFront text (some .object) rest :=
  (reads_peekToken blanks (by decide)).bind ((reads_skip (by decide) rest).bind (reads_pure _ rest))

end Reader

open Reader

mutual

/-- A value is passed, at any depth. -/
theorem Spells.passes {tree : Tree} {text front rest final : List Char} {brackets : List Bracket}
    (spelled : Spells tree front rest) (blanks : Blanks text front) (ended : Ended rest)
    (behind : PassesOn true brackets rest final) : Passes brackets text final := by
  have shorter := Nat.lt_of_lt_of_le spelled.length_lt blanks.length_le
  cases spelled with
  | null =>
    have word := reads_skipFront_word 'n' ['u', 'l', 'l'] (by decide) blanks
    exact .of_front word shorter behind
  | yes =>
    have word := reads_skipFront_word 't' ['r', 'u', 'e'] (by decide) blanks
    exact .of_front word shorter behind
  | no =>
    have word := reads_skipFront_word 'f' ['a', 'l', 's', 'e'] (by decide) blanks
    exact .of_front word shorter behind
  | number number => exact .of_front (reads_skipFront_number blanks number ended) shorter behind
  | string body => exact .of_front (reads_skipFront_string blanks body) shorter behind
  | array items =>
    exact .of_front (reads_skipFront_list blanks) blanks.length_le (items.passesOn behind)
  | object members =>
    exact .of_front (reads_skipFront_object blanks) blanks.length_le (members.passesOn behind)

theorem SpellsItems.passesOn {first : Bool} {items : List Tree} {text rest final : List Char}
    {brackets : List Bracket} (spelled : SpellsItems first items text rest)
    (behind : PassesOn true brackets rest final) :
    PassesOn (!first) (.list :: brackets) text final := by
  cases spelled with
  | close blanks => exact .close .list blanks behind
  | item leads value others =>
    obtain ⟨c, cs, rfl, opens⟩ := value.exists_opening
    apply PassesOn.item leads opens.isOpening
    intro text blanks
    exact value.passes blanks others.ended (others.passesOn behind)

theorem SpellsMembers.passesOn {first : Bool} {members : List (String × Tree)}
    {text rest final : List Char} {brackets : List Bracket}
    (spelled : SpellsMembers first members text rest) (behind : PassesOn true brackets rest final) :
    PassesOn (!first) (.object :: brackets) text final := by
  cases spelled with
  | close blanks => exact .close .object blanks behind
  | member leads name colon blanks value others =>
    apply PassesOn.member leads name colon
    exact value.passes blanks others.ended (others.passesOn behind)

end

namespace Reader

/-- A value by itself is passed, whatever it is. -/
theorem reads_skipValue {tree : Tree} {front : List Char} (blanks : Blanks text front)
    (spelled : Spells tree front rest) (ended : Ended rest) : Reads skipValue text () rest := by
  have passes : Passes [] text rest := spelled.passes blanks ended (passesOn_nil rest)
  apply (reads_turns text).bind
  exact passes (0 :: encodeChars text) (Nat.lt_succ_of_le (length_le_encodeChars text))

end Reader

end BuildHook.Json
