import BuildHook.Json.Parser
import BuildHook.Proofs.Json.Canonical
import BuildHook.Proofs.Json.Literal
import BuildHook.Proofs.Json.Number

/-!
# Reading printed values

The compact text of a value is read as this value, up to where the text ends, whatever stands behind
it. Floating-point numbers are left out: nothing is known of how one is shown. The reader has turns
and depth enough if it has one of each for every character of the text.

## Main results

`reads_number_toDigits` is about integers, `IsExact.readsBack` about all values.
-/

namespace BuildHook.Json

open Utf8 (encodeChars)

/-- Whether an integer fits 64 bits: with a sign if it is negative, else without. -/
def FitsWord : Int → Prop
  | .ofNat n => n < Nat.pow 2 64
  | .negSucc n => n < Nat.pow 2 63

instance : (n : Int) → Decidable (FitsWord n)
  | .ofNat n => inferInstanceAs (Decidable (n < Nat.pow 2 64))
  | .negSucc n => inferInstanceAs (Decidable (n < Nat.pow 2 63))

/-- A value without floating-point numbers, whose integers fit 64 bits. -/
inductive IsExact : Json → Prop
  | null : IsExact .null
  | bool (b : Bool) : IsExact (.bool b)
  | int {n : Int} : FitsWord n → IsExact (.int n)
  | string (s : String) : IsExact (.string s)
  | array {elements : List Json} : (∀ value ∈ elements, IsExact value) → IsExact (.array elements)
  | object {members : List (String × Json)} : (∀ member ∈ members, IsExact member.2) →
      IsExact (.object members)

/-- Every member of a canonical object is the canonical form of a member. -/
theorem mem_canonicalMembers {sorted members : List (String × Json)} {member : String × Json}
    (mem : member ∈ canonicalMembers sorted members) :
    member ∈ sorted ∨ ∃ old ∈ members, member = (old.1, old.2.canonical) := by
  induction members generalizing sorted with
  | nil => exact .inl mem
  | cons front members ih =>
    rw [canonicalMembers] at mem
    rcases ih mem with inserted | ⟨old, mem', same⟩
    · rcases mem_insertMember inserted with same | mem'
      · exact .inr ⟨front, List.mem_cons_self, same⟩
      · exact .inl mem'
    · exact .inr ⟨old, List.mem_cons_of_mem front mem', same⟩

theorem IsExact.canonical {value : Json} (exact : value.IsExact) : value.canonical.IsExact := by
  induction exact with
  | null => exact .null
  | bool b => exact .bool b
  | int fits => exact .int fits
  | string s => exact .string s
  | array _ ih =>
    rw [Json.canonical, canonicalElements_eq]
    exact .array (List.forall_mem_map.mpr ih)
  | object _ ih =>
    refine .object fun member mem => ?_
    rcases mem_canonicalMembers mem with none_before | ⟨old, mem', rfl⟩
    · cases none_before
    · exact ih old mem'

/-! ## Integers -/

theorem isDigits_toDigits (n : Nat) : IsDigits (Nat.toDigits 10 n) :=
  ⟨Nat.toDigits_ne_nil, fun _ mem => Nat.isDigit_of_mem_toDigits (by decide) (by decide) mem⟩

/-- The digits of a number do not begin with a zero, unless it is zero. -/
theorem head?_toDigits {n : Nat} (pos : 0 < n) : (Nat.toDigits 10 n).head? ≠ some '0' := by
  induction n using Nat.strongRecOn with
  | ind n ih =>
    rw [Nat.toDigits_eq_if (by decide)]
    split
    · next small =>
      have shown : ∀ m < 10, 0 < m → [m.digitChar].head? ≠ some '0' := by decide
      exact shown n small pos
    · next large =>
      rw [List.head?_append_of_ne_nil _ Nat.toDigits_ne_nil]
      exact ih (n / 10) (by omega) (by omega)

theorem isWhole_toDigits (n : Nat) : IsWhole (Nat.toDigits 10 n) := by
  rcases Nat.eq_zero_or_pos n with rfl | pos
  · exact .inl rfl
  · exact .inr ⟨isDigits_toDigits n, head?_toDigits pos⟩

namespace Reader

theorem digitValue_ofNat {c : Char} (ascii : c.toNat < 128) :
    digitValue (UInt8.ofNat c.toNat) = c.toNat - '0'.toNat := by
  rw [digitValue, UInt8.toNat_ofNat', Nat.mod_eq_of_lt (by omega)]
  rfl

theorem le_ofDigitChars (ds : List Char) (n : Nat) : n ≤ Nat.ofDigitChars 10 ds n := by
  induction ds generalizing n with
  | nil => exact Nat.le_refl n
  | cons d ds ih =>
    rw [Nat.ofDigitChars_cons]
    have := ih (10 * n + (d.toNat - '0'.toNat))
    omega

/-- Digits are gathered whole if their number fits. -/
theorem gather_encodeChars {ds : List Char} (digits : ∀ c ∈ ds, c.isDigit = true) {n : Nat}
    (fits : Nat.ofDigitChars 10 ds n < Nat.pow 2 64) :
    gather n (encodeChars ds) = (Nat.ofDigitChars 10 ds n, []) := by
  induction ds generalizing n with
  | nil => rfl
  | cons d ds ih =>
    have ascii := lt_of_isDigit (digits d List.mem_cons_self)
    rw [Nat.ofDigitChars_cons] at fits ⊢
    have below := le_ofDigitChars ds (10 * n + (d.toNat - '0'.toNat))
    rw [encodeChars_cons_ascii ascii, gather, digitValue_ofNat ascii, Nat.mul_comm n 10]
    have here : 10 * n + (d.toNat - '0'.toNat) < Nat.pow 2 64 := Nat.lt_of_le_of_lt below fits
    refine (if_pos here).trans ?_
    exact ih (fun c mem => digits c (List.mem_cons_of_mem d mem)) fits

variable {rest : List Char}

/-- A number is whole if nothing goes on with it. -/
theorem reads_whole (negative : Bool) (n : Nat) (ended : Ended rest) :
    Reads (do
      let following ← peek
      if following = some 46 then fractionPart negative n ([] : Bytes).length
      else if isExponentLetter following then exponentPart negative n ([] : Bytes).length
      else if ([] : Bytes).isEmpty then return whole negative n
      else scale negative n ([] : Bytes).length) rest (whole negative n) rest := by
  have point : (encodeChars rest).head? ≠ some 46 :=
    head?_encodeChars_ne (d := '.') (by decide) fun first => (ended '.' first).2 (by decide)
  have small : (encodeChars rest).head? ≠ some 101 :=
    head?_encodeChars_ne (d := 'e') (by decide) fun first => (ended 'e' first).2 (by decide)
  have large : (encodeChars rest).head? ≠ some 69 :=
    head?_encodeChars_ne (d := 'E') (by decide) fun first => (ended 'E' first).2 (by decide)
  apply (reads_peek_head rest).bind
  rw [if_neg point, if_neg]
  · exact reads_pure _ rest
  · simpa [isExponentLetter] using And.intro small large

/-- The digits of a number that fits 64 bits are read as this number. -/
theorem reads_number_toDigits (negative : Bool) {n : Nat} (fits : n < Nat.pow 2 64)
    (ended : Ended rest) :
    Reads (number negative) (Nat.toDigits 10 n ++ rest) (whole negative n) rest := by
  have value : Nat.ofDigitChars 10 (Nat.toDigits 10 n) 0 = n := Nat.ofDigitChars_ten_toDigits
  have stop : ∀ c ∈ rest.head?, c.isDigit = false := fun c first => (ended c first).1
  have gathered := gather_encodeChars (isDigits_toDigits n).2 (n := 0) (by rwa [value])
  rw [value] at gathered
  rcases isWhole_toDigits n with zero | ⟨digits, front⟩
  · rw [zero, encodeChars_cons_ascii (by decide), Utf8.encodeChars_nil] at gathered
    rw [zero]
    apply (reads_next (by decide) rest).bind
    apply (reads_pure [] rest).bind
    apply (reads_peek_head rest).bind
    rw [if_neg (by rw [any_isDigit_head? stop]; decide), gathered]
    exact reads_whole negative n ended
  · obtain ⟨d, ds, split, digit, digits⟩ := digits.exists_cons
    have ascii := lt_of_isDigit digit
    rw [split] at gathered front ⊢
    have zero : UInt8.ofNat d.toNat ≠ 48 :=
      ofNat_toNat_ne ascii (d := '0') (by decide) fun same => front (by rw [same]; rfl)
    rw [encodeChars_cons_ascii ascii] at gathered
    apply (reads_next ascii _).bind
    dsimp only
    rw [if_neg (by rw [isDigit_ofNat ascii, digit]; decide), if_neg zero]
    apply (reads_digits digits stop).bind
    apply (reads_peek_head rest).bind
    rw [if_neg (by simp [zero]), gathered]
    exact reads_whole negative n ended

/-! ## Values -/

variable {turns depth : Nat}

theorem whole_true {n : Nat} (fits : n < Nat.pow 2 63) :
    whole true (n + 1) = .int (Int.negSucc n) := by
  rw [whole, if_neg (by decide), if_neg]
  · rfl
  · simp only [Bool.or_eq_true, decide_eq_true_iff, not_or]
    exact ⟨Nat.succ_ne_zero n, Nat.not_lt.mpr fits⟩

theorem reads_value_int {n : Int} (fits : FitsWord n) (ended : Ended rest) :
    Reads (value (turns + 1) (depth + 1)) (integerText n ++ rest) (.int n) rest := by
  rw [value]
  cases n with
  | ofNat n =>
    have number := reads_number_toDigits false fits ended
    obtain ⟨d, ds, split, digit, -⟩ := (isDigits_toDigits n).exists_cons
    have ascii := lt_of_isDigit digit
    have other (c : Char) (small : c.toNat < 128) (plain : c.isDigit = false) :
        UInt8.ofNat d.toNat ≠ UInt8.ofNat c.toNat :=
      ofNat_toNat_ne ascii small (by rintro rfl; rw [digit] at plain; cases plain)
    rw [split] at number
    rw [integerText, split]
    apply (reads_peekToken .done (IsOpening.isToken (.inr digit))).bind
    dsimp only
    have not_null : UInt8.ofNat d.toNat ≠ 110 := other 'n' (by decide) (by decide)
    have not_true : UInt8.ofNat d.toNat ≠ 116 := other 't' (by decide) (by decide)
    have not_false : UInt8.ofNat d.toNat ≠ 102 := other 'f' (by decide) (by decide)
    have unsigned : UInt8.ofNat d.toNat ≠ 45 := other '-' (by decide) (by decide)
    rw [if_neg not_null, if_neg not_true, if_neg not_false, if_neg unsigned,
      if_pos (by rw [isDigit_ofNat ascii, digit])]
    exact number
  | negSucc n =>
    have small : n + 1 < Nat.pow 2 64 := Nat.lt_of_le_of_lt (Nat.succ_le_of_lt fits) (by decide)
    have number := reads_number_toDigits true small ended
    rw [whole_true fits] at number
    apply (reads_peekToken .done (by decide)).bind
    exact (reads_skip (by decide) _).bind number

theorem reads_value_null :
    Reads (value (turns + 1) (depth + 1)) ('n' :: 'u' :: 'l' :: 'l' :: rest) .null rest := by
  have letters := reads_word ['u', 'l', 'l'] (by simp) rest
  rw [value]
  apply (reads_peekToken .done (by decide)).bind
  exact (reads_skip (by decide) _).bind (letters.bind (reads_pure _ rest))

theorem reads_value_true :
    Reads (value (turns + 1) (depth + 1)) ('t' :: 'r' :: 'u' :: 'e' :: rest) (.bool true)
      rest := by
  have letters := reads_word ['r', 'u', 'e'] (by simp) rest
  rw [value]
  apply (reads_peekToken .done (by decide)).bind
  exact (reads_skip (by decide) _).bind (letters.bind (reads_pure _ rest))

theorem reads_value_false :
    Reads (value (turns + 1) (depth + 1)) ('f' :: 'a' :: 'l' :: 's' :: 'e' :: rest) (.bool false)
      rest := by
  have letters := reads_word ['a', 'l', 's', 'e'] (by simp) rest
  rw [value]
  apply (reads_peekToken .done (by decide)).bind
  exact (reads_skip (by decide) _).bind (letters.bind (reads_pure _ rest))

theorem reads_value_string (s : String) :
    Reads (value (turns + 1) (depth + 1)) (literal s.toList ++ rest) (.string s) rest := by
  rw [value, literal_append]
  apply (reads_peekToken .done (by decide)).bind
  apply (reads_skip (by decide) _).bind
  apply (reads_stringBody (spellsBody_escaped s.toList rest)).bind
  rw [String.ofList_toList]
  exact reads_pure _ rest

/-- What is read between brackets becomes an array. -/
theorem reads_value_array {elements : List Json} {text : List Char}
    (inner : Reads (Reader.elements turns depth true []) text elements (']' :: rest)) :
    Reads (value (turns + 1) (depth + 1)) ('[' :: text) (.array elements) rest := by
  rw [value]
  apply (reads_peekToken .done (by decide)).bind
  apply (reads_skip (by decide) _).bind
  exact inner.bind ((reads_closeList .done).bind (reads_pure _ rest))

/-- What is read between braces becomes an object. -/
theorem reads_value_object {members : List (String × Json)} {text : List Char}
    (inner : Reads (Reader.members turns depth true []) text members ('}' :: rest)) :
    Reads (value (turns + 1) (depth + 1)) ('{' :: text) (.object members) rest := by
  rw [value]
  apply (reads_peekToken .done (by decide)).bind
  apply (reads_skip (by decide) _).bind
  exact inner.bind ((reads_closeObject .done).bind (reads_pure _ rest))

/-- The next element is read before those behind it. -/
theorem reads_elements_cons {first : Bool} {c : Char} {cs text between final : List Char}
    {element : Json} {read result : List Json} (leads : Leads first text (c :: cs))
    (opening : IsOpening c) (here : Reads (value turns depth) (c :: cs) element between)
    (others : Reads (elements turns depth false (element :: read)) between result final) :
    Reads (elements (turns + 1) depth first read) text result final := by
  rw [elements]
  apply (reads_moreElements leads opening.isToken (opening.ne (by decide))).bind
  rw [if_pos rfl]
  exact here.bind others

theorem reads_elements_close {first : Bool} (read : List Json) :
    Reads (elements (turns + 1) depth first read) (']' :: rest) read.reverse (']' :: rest) := by
  rw [elements]
  exact (reads_moreElements_close .done).bind (reads_pure _ _)

/-- The next member is read before those behind it. -/
theorem reads_members_cons {first : Bool} {name : String} {text between final : List Char}
    {valueText : List Char} {member : Json} {read result : List (String × Json)}
    (leads : Leads first text (literal name.toList ++ ':' :: valueText))
    (here : Reads (value turns depth) valueText member between)
    (others : Reads (members turns depth false ((name, member) :: read)) between result final) :
    Reads (members (turns + 1) depth first read) text result final := by
  rw [literal_append] at leads
  rw [members]
  apply (reads_moreMembers leads).bind
  rw [if_pos rfl]
  apply (reads_memberName (spellsBody_escaped name.toList _)).bind
  exact (reads_colon .done).bind (here.bind others)

theorem reads_members_close {first : Bool} (read : List (String × Json)) :
    Reads (members (turns + 1) depth first read) ('}' :: rest) read.reverse ('}' :: rest) := by
  rw [members]
  exact (reads_moreMembers_close .done).bind (reads_pure _ _)

end Reader

theorem chars_opening {value : Json} (exact : value.IsExact) :
    ∃ c cs, chars value = c :: cs ∧ IsOpening c := by
  cases exact with
  | null => exact ⟨_, _, rfl, by decide⟩
  | bool b => cases b <;> exact ⟨_, _, rfl, by decide⟩
  | @int n _ =>
    cases n with
    | ofNat n =>
      obtain ⟨d, ds, split, digit, -⟩ := (isDigits_toDigits n).exists_cons
      exact ⟨d, ds, split, .inr digit⟩
    | negSucc n => exact ⟨_, _, rfl, by decide⟩
  | string s => exact ⟨_, _, rfl, by decide⟩
  | @array elements _ => cases elements <;> exact ⟨_, _, rfl, by decide⟩
  | @object members _ => cases members <;> exact ⟨_, _, rfl, by decide⟩

theorem ended_elementChars (elements : List Json) (rest : List Char) :
    Ended (elementChars elements ++ rest) := by
  cases elements <;> exact ended_cons.mpr (by decide)

theorem ended_memberChars (members : List (String × Json)) (rest : List Char) :
    Ended (memberChars members ++ rest) := by
  cases members <;> exact ended_cons.mpr (by decide)

open Reader (Reads)

/-- Whether the text of a value is read as this value, with one turn and one level for each of its
characters. -/
def ReadsBack (value : Json) : Prop :=
  ∀ (turns depth : Nat) {rest : List Char}, (chars value).length ≤ turns →
    (chars value).length ≤ depth → Ended rest →
    Reads (Reader.value turns depth) (chars value ++ rest) value rest

theorem reads_elementChars {elements : List Json} (exact : ∀ value ∈ elements, value.IsExact)
    (back : ∀ value ∈ elements, value.ReadsBack) (turns depth : Nat)
    (rest : List Char)
    (turnsLeft : (elementChars elements).length ≤ turns)
    (levels : (elementChars elements).length ≤ depth) (read : List Json) :
    Reads (Reader.elements turns depth false read) (elementChars elements ++ rest)
      (read.reverse ++ elements) (']' :: rest) := by
  induction elements generalizing turns read with
  | nil =>
    obtain ⟨turns, rfl⟩ := Nat.exists_eq_add_of_le' turnsLeft
    rw [List.append_nil]
    exact Reader.reads_elements_close read
  | cons value elements ih =>
    obtain ⟨exactHere, exactLater⟩ := List.forall_mem_cons.mp exact
    obtain ⟨backHere, backLater⟩ := List.forall_mem_cons.mp back
    rw [elementChars, List.length_cons, List.length_append] at turnsLeft levels
    obtain ⟨turns, rfl⟩ := Nat.exists_eq_add_of_le' (show 1 ≤ turns by omega)
    have here := backHere turns depth (by omega) (by omega) (ended_elementChars elements rest)
    have others := ih exactLater backLater turns (by omega) (by omega) (value :: read)
    rw [List.reverse_cons, List.append_assoc, List.singleton_append] at others
    obtain ⟨c, cs, split, opening⟩ := chars_opening exactHere
    rw [elementChars, List.cons_append, List.append_assoc]
    rw [split, List.cons_append] at here ⊢
    exact Reader.reads_elements_cons (.later .done .done) opening here others

theorem reads_memberChars {members : List (String × Json)}
    (back : ∀ member ∈ members, member.2.ReadsBack) (turns depth : Nat)
    (rest : List Char)
    (turnsLeft : (memberChars members).length ≤ turns)
    (levels : (memberChars members).length ≤ depth) (read : List (String × Json)) :
    Reads (Reader.members turns depth false read) (memberChars members ++ rest)
      (read.reverse ++ members) ('}' :: rest) := by
  induction members generalizing turns read with
  | nil =>
    obtain ⟨turns, rfl⟩ := Nat.exists_eq_add_of_le' turnsLeft
    rw [List.append_nil]
    exact Reader.reads_members_close read
  | cons member members ih =>
    obtain ⟨name, value⟩ := member
    obtain ⟨backHere : value.ReadsBack, backLater⟩ := List.forall_mem_cons.mp back
    rw [memberChars, List.length_cons, List.length_append, List.length_cons,
      List.length_append] at turnsLeft levels
    obtain ⟨turns, rfl⟩ := Nat.exists_eq_add_of_le' (show 1 ≤ turns by omega)
    have here := backHere turns depth (by omega) (by omega) (ended_memberChars members rest)
    have others := ih backLater turns (by omega) (by omega) ((name, value) :: read)
    rw [List.reverse_cons, List.append_assoc, List.singleton_append] at others
    rw [memberChars, List.cons_append, List.append_assoc, List.cons_append, List.append_assoc]
    exact Reader.reads_members_cons (.later .done .done) here others

theorem length_chars_pos {value : Json} (exact : value.IsExact) : 1 ≤ (chars value).length := by
  obtain ⟨c, cs, split, -⟩ := chars_opening exact
  rw [split]
  exact Nat.succ_pos _

/-- There is a turn and a level for the first character of a value. -/
theorem readsBack_of_succ {value : Json} (exact : value.IsExact)
    (reads : ∀ (turns depth : Nat) {rest : List Char}, (chars value).length ≤ turns + 1 →
      (chars value).length ≤ depth + 1 → Ended rest →
      Reads (Reader.value (turns + 1) (depth + 1)) (chars value ++ rest) value rest) :
    value.ReadsBack := by
  intro turns depth rest turnsLeft levels ended
  have pos := length_chars_pos exact
  obtain ⟨turns, rfl⟩ := Nat.exists_eq_add_of_le' (Nat.le_trans pos turnsLeft)
  obtain ⟨depth, rfl⟩ := Nat.exists_eq_add_of_le' (Nat.le_trans pos levels)
  exact reads turns depth turnsLeft levels ended

/-- The text of an array is read back if those of its elements are. -/
theorem readsBack_array {elements : List Json} (exact : ∀ value ∈ elements, value.IsExact)
    (back : ∀ value ∈ elements, value.ReadsBack) : (Json.array elements).ReadsBack := by
  refine readsBack_of_succ (.array exact) fun turns depth rest turnsLeft levels _ => ?_
  cases elements with
  | nil =>
    obtain ⟨turns, rfl⟩ := Nat.exists_eq_add_of_le' (Nat.le_of_succ_le_succ turnsLeft)
    exact Reader.reads_value_array (Reader.reads_elements_close [])
  | cons value elements =>
    obtain ⟨exactHere, exactLater⟩ := List.forall_mem_cons.mp exact
    obtain ⟨backHere, backLater⟩ := List.forall_mem_cons.mp back
    have pos := length_chars_pos exactHere
    have behind : 1 ≤ (elementChars elements).length := by
      cases elements <;> exact Nat.succ_pos _
    rw [chars, List.length_cons, List.length_append] at turnsLeft levels
    obtain ⟨turns, rfl⟩ := Nat.exists_eq_add_of_le' (show 1 ≤ turns by omega)
    have here := backHere turns depth (by omega) (by omega) (ended_elementChars elements rest)
    have others := reads_elementChars exactLater backLater turns depth rest (by omega)
      (by omega) [value]
    obtain ⟨c, cs, split, opening⟩ := chars_opening exactHere
    rw [chars, List.cons_append, List.append_assoc]
    rw [split, List.cons_append] at here ⊢
    exact Reader.reads_value_array (Reader.reads_elements_cons (.first .done) opening here others)

/-- The text of an object is read back if those of its members are. -/
theorem readsBack_object {members : List (String × Json)}
    (exact : ∀ member ∈ members, member.2.IsExact)
    (back : ∀ member ∈ members, member.2.ReadsBack) : (Json.object members).ReadsBack := by
  refine readsBack_of_succ (.object exact) fun turns depth rest turnsLeft levels _ => ?_
  cases members with
  | nil =>
    obtain ⟨turns, rfl⟩ := Nat.exists_eq_add_of_le' (Nat.le_of_succ_le_succ turnsLeft)
    exact Reader.reads_value_object (Reader.reads_members_close [])
  | cons member members =>
    obtain ⟨name, value⟩ := member
    obtain ⟨backHere : value.ReadsBack, backLater⟩ := List.forall_mem_cons.mp back
    have behind : 1 ≤ (memberChars members).length := by
      cases members <;> exact Nat.succ_pos _
    rw [chars, List.length_cons, List.length_append, List.length_cons,
      List.length_append] at turnsLeft levels
    obtain ⟨turns, rfl⟩ := Nat.exists_eq_add_of_le' (show 1 ≤ turns by omega)
    have here := backHere turns depth (by omega) (by omega) (ended_memberChars members rest)
    have others := reads_memberChars backLater turns depth rest (by omega)
      (by omega) [(name, value)]
    rw [chars, List.cons_append, List.append_assoc, List.cons_append, List.append_assoc]
    exact Reader.reads_value_object (Reader.reads_members_cons (.first .done) here others)

/-- The text of a value is read as this value. -/
theorem IsExact.readsBack {value : Json} (exact : value.IsExact) : value.ReadsBack := by
  induction exact with
  | null => exact readsBack_of_succ .null fun _ _ _ _ _ _ => Reader.reads_value_null
  | bool b =>
    refine readsBack_of_succ (.bool b) fun _ _ _ _ _ _ => ?_
    cases b with
    | true => exact Reader.reads_value_true
    | false => exact Reader.reads_value_false
  | int fits =>
    exact readsBack_of_succ (.int fits) fun _ _ _ _ _ ended => Reader.reads_value_int fits ended
  | string s =>
    exact readsBack_of_succ (.string s) fun _ _ _ _ _ _ => Reader.reads_value_string s
  | array exact back => exact readsBack_array exact back
  | object exact back => exact readsBack_object exact back

/-! ## Control characters -/

/-- The text has no control characters: no line feeds above all. -/
def IsPrinted (text : List Char) : Prop := ∀ c ∈ text, 0x20 ≤ c.toNat

theorem isPrinted_cons {c : Char} {text : List Char} :
    IsPrinted (c :: text) ↔ 0x20 ≤ c.toNat ∧ IsPrinted text := List.forall_mem_cons

theorem isPrinted_append {first second : List Char} :
    IsPrinted (first ++ second) ↔ IsPrinted first ∧ IsPrinted second := List.forall_mem_append

instance (text : List Char) : Decidable (IsPrinted text) := List.decidableBAll _ text

theorem isPrinted_escaped (c : Char) : IsPrinted (escaped c) := by
  have digit : ∀ n < 16, 0x20 ≤ (hexDigit n).toNat := by decide
  unfold escaped
  split
  · decide
  split
  · decide
  split
  · next control =>
    -- the five controls that have a letter, and the others, which have digits
    iterate 5 (split; · decide)
    simp only [isPrinted_cons]
    refine ⟨by decide, by decide, by decide, by decide, digit _ ?_, digit _ ?_, nofun⟩ <;> omega
  · next printed => exact isPrinted_cons.mpr ⟨Nat.le_of_not_lt printed, nofun⟩

theorem isPrinted_literal (s : List Char) : IsPrinted (literal s) := by
  refine isPrinted_cons.mpr ⟨by decide, isPrinted_append.mpr ⟨fun c mem => ?_, by decide⟩⟩
  obtain ⟨d, -, mem⟩ := List.mem_flatMap.mp mem
  exact isPrinted_escaped d c mem

theorem isPrinted_integerText (n : Int) : IsPrinted (integerText n) := by
  have digits (n : Nat) : IsPrinted (Nat.toDigits 10 n) := fun c mem => by
    have := isDigit_iff.mp ((isDigits_toDigits n).2 c mem)
    omega
  cases n with
  | ofNat n => exact digits n
  | negSucc n => exact isPrinted_cons.mpr ⟨by decide, digits (n + 1)⟩

theorem isPrinted_elementChars {elements : List Json}
    (printed : ∀ value ∈ elements, IsPrinted (chars value)) :
    IsPrinted (elementChars elements) := by
  induction elements with
  | nil => decide
  | cons value elements ih =>
    obtain ⟨here, later⟩ := List.forall_mem_cons.mp printed
    rw [elementChars]
    exact isPrinted_cons.mpr ⟨by decide, isPrinted_append.mpr ⟨here, ih later⟩⟩

/-- A member is printed without control characters, and so is what follows it. -/
theorem isPrinted_member {name : String} {text : List Char} (printed : IsPrinted text) :
    IsPrinted (literal name.toList ++ ':' :: text) :=
  isPrinted_append.mpr ⟨isPrinted_literal _, isPrinted_cons.mpr ⟨by decide, printed⟩⟩

theorem isPrinted_memberChars {members : List (String × Json)}
    (printed : ∀ member ∈ members, IsPrinted (chars member.2)) :
    IsPrinted (memberChars members) := by
  induction members with
  | nil => decide
  | cons member members ih =>
    obtain ⟨here, later⟩ := List.forall_mem_cons.mp printed
    rw [memberChars]
    exact isPrinted_cons.mpr
      ⟨by decide, isPrinted_member (isPrinted_append.mpr ⟨here, ih later⟩)⟩

/-- The text of a value has no control characters. -/
theorem IsExact.isPrinted_chars {value : Json} (exact : value.IsExact) :
    IsPrinted (chars value) := by
  induction exact with
  | null => decide
  | bool b => cases b <;> decide
  | int _ => exact isPrinted_integerText _
  | string s => exact isPrinted_literal s.toList
  | @array elements _ ih =>
    cases elements with
    | nil => decide
    | cons value elements =>
      obtain ⟨here, later⟩ := List.forall_mem_cons.mp ih
      rw [chars]
      exact isPrinted_cons.mpr
        ⟨by decide, isPrinted_append.mpr ⟨here, isPrinted_elementChars later⟩⟩
  | @object members _ ih =>
    cases members with
    | nil => decide
    | cons member members =>
      obtain ⟨here, later⟩ := List.forall_mem_cons.mp ih
      rw [chars]
      exact isPrinted_cons.mpr ⟨by decide,
        isPrinted_member (isPrinted_append.mpr ⟨here, isPrinted_memberChars later⟩)⟩

end BuildHook.Json
