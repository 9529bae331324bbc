import BuildHook.Text.Hex
import Mathlib.Data.List.Forall2

/-!
# The grammar of JSON texts

Which texts stand for a tree of values. A tree keeps the order of members and names that occur more
than once; its numbers are the literals themselves. The relations say how a text goes on:
`Spells tree text rest` says that `text` begins with a spelling of `tree`, behind which `rest` is
left. Where a number ends is not told by its own rule but by what may stand behind a value.

## Main results

`Spells.exists_opening` and `Spells.length_lt` say that a value has a first character,
`SpellsItems.ended` and `SpellsMembers.ended` that no number goes on behind a value.
-/

namespace BuildHook.Json

/-- A value as a text gives it. -/
inductive Tree where
  | null
  | bool (b : Bool)
  | number (literal : List Char)
  | string (s : String)
  | array (items : List Tree)
  | object (members : List (String × Tree))

/-- Whether a character may stand between tokens: blank, tab, line feed or carriage return. -/
def IsBlank (c : Char) : Prop := c ∈ [' ', '\t', '\n', '\r']

instance (c : Char) : Decidable (IsBlank c) := inferInstanceAs (Decidable (c ∈ _))

/-- A text that begins with any number of blanks. -/
inductive Blanks : List Char → List Char → Prop
  | done {text} : Blanks text text
  | blank {c text rest} : IsBlank c → Blanks text rest → Blanks (c :: text) rest

/-- One decimal digit or more. -/
def IsDigits (cs : List Char) : Prop := cs ≠ [] ∧ ∀ c ∈ cs, c.isDigit = true

/-- The whole part of a number has no leading zero. -/
def IsWhole (cs : List Char) : Prop := cs = ['0'] ∨ IsDigits cs ∧ cs.head? ≠ some '0'

/-- The fraction of a number, which may be left out. -/
def IsFraction (cs : List Char) : Prop := cs = [] ∨ ∃ ds, IsDigits ds ∧ cs = '.' :: ds

/-- The exponent of a number, which may be left out. -/
def IsExponent (cs : List Char) : Prop :=
  cs = [] ∨ ∃ letter ∈ ['e', 'E'], ∃ sign ∈ [[], ['+'], ['-']], ∃ ds, IsDigits ds ∧
    cs = letter :: (sign ++ ds)

/-- The text of a number, of any size. -/
def IsNumber (cs : List Char) : Prop :=
  ∃ sign ∈ [[], ['-']], ∃ whole fraction exponent, IsWhole whole ∧ IsFraction fraction ∧
    IsExponent exponent ∧ cs = sign ++ (whole ++ (fraction ++ exponent))

/-- A hexadecimal digit of either case. -/
def IsHexDigit (value : Nat) (c : Char) : Prop :=
  value < 16 ∧ (c = Hex.digit value ∨ c = (Hex.digit value).toUpper)

/-- Four hexadecimal digits that stand for `n`. -/
def IsQuad (n : Nat) (cs : List Char) : Prop :=
  ∃ values, values.length = 4 ∧ List.Forall₂ IsHexDigit values cs ∧
    n = values.foldl (fun value digit => value * 16 + digit) 0

/-- The letters of short escapes with the characters they stand for. -/
def shortEscapes : List (Char × Char) :=
  [('"', '"'), ('\\', '\\'), ('/', '/'), ('b', '\x08'), ('f', '\x0c'), ('n', '\n'), ('r', '\r'),
    ('t', '\t')]

/-- The ways to write a character inside a string literal: itself, a short escape, the four digits
of its code, or those of the two surrogates that share it. -/
inductive SpellsChar : Char → List Char → Prop
  | plain {c} : c ≠ '"' → c ≠ '\\' → 0x20 ≤ c.toNat → SpellsChar c [c]
  | short {letter c} : (letter, c) ∈ shortEscapes → SpellsChar c ['\\', letter]
  | code {c digits} : IsQuad c.toNat digits → SpellsChar c ('\\' :: 'u' :: digits)
  | pair {c high low digits others} : 0xD800 ≤ high → high ≤ 0xDBFF → 0xDC00 ≤ low → low ≤ 0xDFFF →
      c.toNat = 0x10000 + (high - 0xD800) * 0x400 + (low - 0xDC00) → IsQuad high digits →
      IsQuad low others → SpellsChar c ('\\' :: 'u' :: (digits ++ '\\' :: 'u' :: others))

/-- A text that begins with the characters of a literal and its closing quote. -/
inductive SpellsBody : List Char → List Char → List Char → Prop
  | close {rest} : SpellsBody [] ('"' :: rest) rest
  | char {c cs spelled text rest} : SpellsChar c spelled → SpellsBody cs text rest →
      SpellsBody (c :: cs) (spelled ++ text) rest

/-- A text that begins with what must stand before an item or a member: only blanks before the first
one, a comma between blanks before the others. -/
inductive Leads : Bool → List Char → List Char → Prop
  | first {text rest} : Blanks text rest → Leads true text rest
  | later {text between rest} : Blanks text (',' :: between) → Blanks between rest →
      Leads false text rest

mutual

/-- A text that begins with a spelling of a tree. -/
inductive Spells : Tree → List Char → List Char → Prop
  | null {rest} : Spells .null ('n' :: 'u' :: 'l' :: 'l' :: rest) rest
  | yes {rest} : Spells (.bool true) ('t' :: 'r' :: 'u' :: 'e' :: rest) rest
  | no {rest} : Spells (.bool false) ('f' :: 'a' :: 'l' :: 's' :: 'e' :: rest) rest
  | number {literal rest} : IsNumber literal → Spells (.number literal) (literal ++ rest) rest
  | string {s text rest} : SpellsBody s.toList text rest → Spells (.string s) ('"' :: text) rest
  | array {items text rest} : SpellsItems true items text rest →
      Spells (.array items) ('[' :: text) rest
  | object {members text rest} : SpellsMembers true members text rest →
      Spells (.object members) ('{' :: text) rest

/-- A text that begins with the items of an array and its closing bracket; `first` says whether none
stands before them. -/
inductive SpellsItems : Bool → List Tree → List Char → List Char → Prop
  | close {first text rest} : Blanks text (']' :: rest) → SpellsItems first [] text rest
  | item {first tree items text front behind rest} : Leads first text front →
      Spells tree front behind → SpellsItems false items behind rest →
      SpellsItems first (tree :: items) text rest

/-- A text that begins with the members of an object and its closing brace. -/
inductive SpellsMembers : Bool → List (String × Tree) → List Char → List Char → Prop
  | close {first text rest} : Blanks text ('}' :: rest) → SpellsMembers first [] text rest
  | member {first name tree members text front named colon value behind rest} :
      Leads first text ('"' :: front) → SpellsBody name.toList front named →
      Blanks named (':' :: colon) → Blanks colon value → Spells tree value behind →
      SpellsMembers false members behind rest →
      SpellsMembers first ((name, tree) :: members) text rest

end

/-- A text that is a spelling of a tree between blanks. -/
def IsText (tree : Tree) (text : List Char) : Prop :=
  ∃ front behind, Blanks text front ∧ Spells tree front behind ∧ Blanks behind []

/-- Whether a spelling of the tree may begin with the character. -/
def Tree.OpensWith (c : Char) : Tree → Prop
  | .null => c = 'n'
  | .bool true => c = 't'
  | .bool false => c = 'f'
  | .number _ => c = '-' ∨ c.isDigit = true
  | .string _ => c = '"'
  | .array _ => c = '['
  | .object _ => c = '{'

/-- The characters that a value begins with. -/
def IsOpening (c : Char) : Prop :=
  c ∈ ['n', 't', 'f', '"', '[', '{', '-'] ∨ c.isDigit = true

/-- An ASCII character that is no blank, as a token begins with. -/
def IsToken (c : Char) : Prop := c.toNat < 128 ∧ ¬ IsBlank c

instance (c : Char) : Decidable (IsToken c) := inferInstanceAs (Decidable (_ ∧ _))

/-- Whether no number goes on with this text. -/
def Ended (text : List Char) : Prop :=
  ∀ c ∈ text.head?, c.isDigit = false ∧ c ∉ ['.', 'e', 'E']

theorem ended_nil : Ended [] := by
  intro c first
  cases first

theorem ended_cons {c : Char} {text : List Char} :
    Ended (c :: text) ↔ c.isDigit = false ∧ c ∉ ['.', 'e', 'E'] := by
  constructor
  · intro ended
    exact ended c rfl
  · rintro ended d ⟨⟩
    exact ended

theorem isBlank_iff {c : Char} : IsBlank c ↔ c = ' ' ∨ c = '\t' ∨ c = '\n' ∨ c = '\r' := by
  simp [IsBlank]

theorem IsBlank.ended {c : Char} (blank : IsBlank c) (text : List Char) : Ended (c :: text) := by
  rw [ended_cons]
  rcases isBlank_iff.mp blank with rfl | rfl | rfl | rfl <;> decide

theorem Blanks.ended {text rest : List Char} (blanks : Blanks text rest) (ended : Ended rest) :
    Ended text := by
  cases blanks with
  | done => exact ended
  | blank blank => exact blank.ended _

theorem Blanks.length_le {text rest : List Char} (blanks : Blanks text rest) :
    rest.length ≤ text.length := by
  induction blanks with
  | done => exact Nat.le_refl _
  | blank _ _ ih => exact Nat.le_succ_of_le ih

theorem Blanks.trans {text between rest : List Char} (before : Blanks text between)
    (behind : Blanks between rest) : Blanks text rest := by
  induction before with
  | done => exact behind
  | blank blank _ ih => exact .blank blank (ih behind)

theorem Leads.length_le {first : Bool} {text rest : List Char} (leads : Leads first text rest) :
    rest.length ≤ text.length := by
  cases leads with
  | first blanks => exact blanks.length_le
  | later before behind =>
    have := before.length_le
    rw [List.length_cons] at this
    have := behind.length_le
    omega

theorem SpellsChar.length_pos {c : Char} {spelled : List Char} (spells : SpellsChar c spelled) :
    0 < spelled.length := by
  cases spells <;> exact Nat.succ_pos _

theorem SpellsBody.length_lt {cs text rest : List Char} (spelled : SpellsBody cs text rest) :
    rest.length < text.length := by
  induction spelled with
  | close => exact Nat.lt_succ_self _
  | char spells _ ih =>
    have := spells.length_pos
    rw [List.length_append]
    omega

/-- Behind an item no number goes on. -/
theorem SpellsItems.ended {items : List Tree} {text rest : List Char}
    (spelled : SpellsItems false items text rest) : Ended text := by
  cases spelled with
  | close blanks => exact blanks.ended (ended_cons.mpr (by decide))
  | item leads => cases leads with | later blanks => exact blanks.ended (ended_cons.mpr (by decide))

/-- Behind the value of a member no number goes on. -/
theorem SpellsMembers.ended {members : List (String × Tree)} {text rest : List Char}
    (spelled : SpellsMembers false members text rest) : Ended text := by
  cases spelled with
  | close blanks => exact blanks.ended (ended_cons.mpr (by decide))
  | member leads =>
    cases leads with | later blanks => exact blanks.ended (ended_cons.mpr (by decide))

theorem IsDigits.exists_cons {cs : List Char} (digits : IsDigits cs) :
    ∃ d ds, cs = d :: ds ∧ d.isDigit = true ∧ ∀ c ∈ ds, c.isDigit = true := by
  obtain ⟨d, ds, rfl⟩ := List.exists_cons_of_ne_nil digits.1
  exact ⟨d, ds, rfl, digits.2 d List.mem_cons_self, fun c mem =>
    digits.2 c (List.mem_cons_of_mem d mem)⟩

theorem isDigit_iff {c : Char} : c.isDigit = true ↔ 48 ≤ c.toNat ∧ c.toNat ≤ 57 := by
  simp only [Char.isDigit, Bool.and_eq_true, decide_eq_true_iff, ge_iff_le, UInt32.le_iff_toNat_le]
  exact Iff.rfl

theorem IsBlank.toNat_le {c : Char} (blank : IsBlank c) : c.toNat ≤ 32 := by
  rcases isBlank_iff.mp blank with rfl | rfl | rfl | rfl <;> decide

theorem IsOpening.isToken {c : Char} (opening : IsOpening c) : IsToken c := by
  rcases opening with mark | digit
  · simp only [List.mem_cons, List.not_mem_nil, or_false] at mark
    rcases mark with rfl | rfl | rfl | rfl | rfl | rfl | rfl <;> decide
  · rw [isDigit_iff] at digit
    refine ⟨by omega, fun blank => ?_⟩
    have := blank.toNat_le
    omega

theorem Tree.OpensWith.isOpening {tree : Tree} {c : Char} (opens : tree.OpensWith c) :
    IsOpening c := by
  unfold OpensWith at opens
  split at opens
  case h_4 =>
    rcases opens with rfl | digit
    · exact .inl (by decide)
    · exact .inr digit
  all_goals
    subst opens
    exact .inl (by decide)

theorem Tree.opensWith_letter {tree : Tree} : tree.OpensWith 'n' ↔ tree = .null := by
  cases tree with
  | bool b => cases b <;> simp [OpensWith]
  | _ => simp [OpensWith]

theorem Tree.opensWith_quote {tree : Tree} : tree.OpensWith '"' ↔ ∃ s, tree = .string s := by
  cases tree with
  | bool b => cases b <;> simp [OpensWith]
  | _ => simp [OpensWith]

theorem Tree.opensWith_bracket {tree : Tree} :
    tree.OpensWith '[' ↔ ∃ items, tree = .array items := by
  cases tree with
  | bool b => cases b <;> simp [OpensWith]
  | _ => simp [OpensWith]

theorem Tree.opensWith_brace {tree : Tree} :
    tree.OpensWith '{' ↔ ∃ members, tree = .object members := by
  cases tree with
  | bool b => cases b <;> simp [OpensWith]
  | _ => simp [OpensWith]

/-- A mark of punctuation begins no value. -/
theorem IsOpening.ne {c mark : Char} (opening : IsOpening c) (other : ¬ IsOpening mark) :
    c ≠ mark := by
  rintro rfl
  exact other opening

instance (c : Char) : Decidable (IsOpening c) := inferInstanceAs (Decidable (_ ∨ _))

theorem IsWhole.exists_cons {cs : List Char} (whole : IsWhole cs) :
    ∃ d ds, cs = d :: ds ∧ d.isDigit = true := by
  rcases whole with rfl | ⟨digits, -⟩
  · exact ⟨'0', [], rfl, rfl⟩
  · obtain ⟨d, ds, rfl, digit, -⟩ := digits.exists_cons
    exact ⟨d, ds, rfl, digit⟩

theorem IsNumber.exists_opening {cs : List Char} (number : IsNumber cs) :
    ∃ d ds, cs = d :: ds ∧ (d = '-' ∨ d.isDigit = true) := by
  obtain ⟨sign, signed, whole, fraction, exponent, wholes, -, -, rfl⟩ := number
  obtain ⟨d, ds, rfl, digit⟩ := wholes.exists_cons
  simp only [List.mem_cons, List.not_mem_nil, or_false] at signed
  rcases signed with rfl | rfl
  · exact ⟨d, _, rfl, .inr digit⟩
  · exact ⟨'-', _, rfl, .inl rfl⟩

/-- A value has a first character. -/
theorem Spells.exists_opening {tree : Tree} {text rest : List Char}
    (spelled : Spells tree text rest) : ∃ c cs, text = c :: cs ∧ tree.OpensWith c := by
  cases spelled with
  | number number =>
    obtain ⟨d, ds, rfl, opens⟩ := number.exists_opening
    exact ⟨d, _, rfl, opens⟩
  | _ => exact ⟨_, _, rfl, rfl⟩

mutual

/-- A value takes up some of the text. -/
theorem Spells.length_lt {tree : Tree} {text rest : List Char} (spelled : Spells tree text rest) :
    rest.length < text.length := by
  cases spelled with
  | number number =>
    obtain ⟨d, ds, rfl, -⟩ := number.exists_opening
    rw [List.length_append, List.length_cons]
    omega
  | string body => exact Nat.lt_succ_of_lt body.length_lt
  | array items => exact Nat.lt_succ_of_lt items.length_lt
  | object members => exact Nat.lt_succ_of_lt members.length_lt
  | _ =>
    simp only [List.length_cons]
    omega

theorem SpellsItems.length_lt {first : Bool} {items : List Tree} {text rest : List Char}
    (spelled : SpellsItems first items text rest) : rest.length < text.length := by
  cases spelled with
  | close blanks => exact blanks.length_le
  | item leads value items =>
    have := leads.length_le
    have := value.length_lt
    have := items.length_lt
    omega

theorem SpellsMembers.length_lt {first : Bool} {members : List (String × Tree)}
    {text rest : List Char} (spelled : SpellsMembers first members text rest) :
    rest.length < text.length := by
  cases spelled with
  | close blanks => exact blanks.length_le
  | member leads name before between value members =>
    have := leads.length_le
    have := name.length_lt
    have := before.length_le
    have := between.length_le
    have := value.length_lt
    have := members.length_lt
    simp only [List.length_cons] at *
    omega

end

end BuildHook.Json
