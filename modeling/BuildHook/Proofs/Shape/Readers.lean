import BuildHook.Proofs.Json.Passing
import BuildHook.Proofs.Shape.Fields

/-!
# Readers of shapes

The reader of a shape passes a text once, from its front to its end. On every spelling of a tree it
finds what the tree holds, and refuses the text if the tree holds nothing of this form.

## Main results

`fits_reader` is the theorem on values, by recursion on the shape; `toOption_ofJsonText` says the
same of whole documents.
-/

namespace BuildHook

open Json Json.Reader
open Utf8 (encodeChars length_le_encodeChars)
open Shape

namespace Json.Reader

variable {text front rest : List Char} {tree : Tree}

/-- On every spelling of a tree the reader gives what the decoder has of it. -/
def Fits (reader : Reader Datum) (decode : Decoder) : Prop :=
  ∀ ⦃tree : Tree⦄ ⦃text front rest : List Char⦄, Blanks text front → Spells tree front rest →
    Ended rest → Gives reader text (decode tree) rest

theorem refusesAll_unexpected (expected : String) :
    RefusesAll (unexpected expected : Reader Datum) := by
  apply refusesAll_bind
  intro looked
  dsimp only
  repeat' split
  all_goals repeat' first
    | exact refusesAll_fail _
    | (apply refusesAll_bind; intro _)

/-- A value that begins otherwise than with the mark whose code is `b`. -/
theorem exists_other (spelled : Spells tree front rest) (mark : Char) {b : UInt8}
    (code : UInt8.ofNat mark.toNat = b) (ascii : mark.toNat < 128) (other : ¬ tree.OpensWith mark) :
    ∃ c cs, front = c :: cs ∧ IsToken c ∧ UInt8.ofNat c.toNat ≠ b := by
  obtain ⟨c, cs, rfl, opens⟩ := spelled.exists_opening
  have token := opens.isOpening.isToken
  subst code
  refine ⟨c, cs, rfl, token, ofNat_toNat_ne token.1 ascii ?_⟩
  rintro rfl
  exact other opens

theorem fits_text (expected : String) : Fits (Reader.text expected) text? := by
  intro tree text front rest blanks spelled ended
  by_cases quote : tree.OpensWith '"'
  · obtain ⟨s, rfl⟩ := Tree.opensWith_quote.mp quote
    cases spelled with
    | string body =>
      have value := reads_stringBody body
      rw [String.ofList_toList] at value
      apply (reads_peekToken blanks (by decide)).bind
      exact (reads_skip (by decide) _).bind (value.bind (reads_pure _ rest))
  · obtain ⟨c, cs, rfl, token, ne⟩ := exists_other spelled '"' (b := 34) rfl (by decide) quote
    have none : text? tree = none := by
      cases tree with
      | string s => exact absurd rfl quote
      | _ => rfl
    rw [none]
    apply (reads_peekToken blanks token).bind_refuses
    dsimp only
    rw [if_neg ne]
    exact (refusesAll_unexpected expected).refuses _

theorem fits_optional {inner : Reader Datum} {decode : Decoder} (fits : Fits inner decode) :
    Fits (Reader.optional inner) (optional? decode) := by
  intro tree text front rest blanks spelled ended
  by_cases letter : tree.OpensWith 'n'
  · obtain rfl := Tree.opensWith_letter.mp letter
    cases spelled with
    | null =>
      have letters := reads_word ['u', 'l', 'l'] (by simp) rest
      apply (reads_peekToken blanks (by decide)).bind
      exact (reads_skip (by decide) _).bind (letters.bind (reads_pure _ rest))
  · obtain ⟨c, cs, rfl, token, ne⟩ := exists_other spelled 'n' (b := 110) rfl (by decide) letter
    rw [optional?_of_ne (mt Tree.opensWith_letter.mpr letter)]
    apply (reads_peekToken blanks token).bind_gives
    rw [if_neg fun same => ne (Option.some.inj same)]
    exact fits .done spelled ended

/-! ## Lists -/

/-- The items of an array are read up to its closing bracket. -/
theorem gives_items {inner : Reader Datum} {decode : Decoder} (fits : Fits inner decode)
    {trees : List Tree} {first : Bool} (spelled : SpellsItems first trees text rest)
    {turns : Bytes} (enough : text.length < turns.length) (read : List Datum) :
    Gives (items inner turns first read) text
      ((trees.mapM decode).map (read.reverse ++ ·)) (']' :: rest) := by
  induction trees generalizing first text turns read with
  | nil =>
    cases turns with
    | nil => cases enough
    | cons turn turns =>
      cases spelled with
      | close blanks =>
        apply (reads_moreElements_close blanks).bind_gives
        rw [if_neg Bool.false_ne_true, List.mapM_nil]
        show Reads (pure read.reverse) _ (read.reverse ++ []) _
        rw [List.append_nil]
        exact reads_pure _ _
  | cons tree trees ih =>
    cases turns with
    | nil => cases enough
    | cons turn turns =>
      cases spelled with
      | @item _ _ _ _ _ behind _ leads value others =>
        have shorter := leads.length_le
        have := value.length_lt
        rw [List.length_cons] at enough
        obtain ⟨c, cs, rfl, opens⟩ := value.exists_opening
        have token := opens.isOpening.isToken
        apply (reads_moreElements leads token (opens.isOpening.ne (by decide))).bind_gives
        rw [if_pos rfl]
        have enough : behind.length < turns.length := by omega
        have step := Gives.bind (fits .done value others.ended) fun datum _ =>
          ih others enough (datum :: read)
        have joined (datum : Datum) : (fun data => read.reverse ++ data) ∘ (datum :: ·)
            = fun data => (datum :: read).reverse ++ data := by
          funext data
          simp
        rw [mapM_cons, Option.map_bind]
        simp only [Function.comp_def, Option.map_map] at joined ⊢
        simp only [joined]
        exact step

theorem fits_list {inner : Reader Datum} {decode : Decoder} (fits : Fits inner decode) :
    Fits (Reader.list inner) (list? decode) := by
  intro tree text front rest blanks spelled ended
  by_cases bracket : tree.OpensWith '['
  · obtain ⟨trees, rfl⟩ := Tree.opensWith_bracket.mp bracket
    cases spelled with
    | @array _ inside _ spelled =>
      have enough : inside.length < (0 :: encodeChars inside).length :=
        Nat.lt_succ_of_le (length_le_encodeChars inside)
      have all := gives_items fits spelled enough []
      simp only [List.reverse_nil, List.nil_append, Option.map_id'] at all
      apply (reads_peekToken blanks (by decide)).bind_gives
      apply (reads_skip (by decide) _).bind_gives
      apply (reads_turns inside).bind_gives
      rw [list?, Option.map_eq_bind]
      apply all.bind
      intro data _
      exact (reads_closeList .done).bind (reads_pure _ rest)
  · obtain ⟨c, cs, rfl, token, ne⟩ := exists_other spelled '[' (b := 91) rfl (by decide) bracket
    have none : list? decode tree = none := by
      cases tree with
      | array items => exact absurd rfl bracket
      | _ => rfl
    rw [none]
    apply (reads_peekToken blanks token).bind_refuses
    dsimp only
    rw [if_neg ne]
    exact (refusesAll_unexpected _).refuses _

/-! ## Records given in order -/

/-- The fields are read from the items in front, and the items behind them are left. -/
theorem gives_fieldsInOrder {fields : List (Field Shape)}
    (fits : ∀ field ∈ fields, Fits field.content.reader field.content.decode)
    (trailing : ∀ field ∈ fields, field.trailing = field.fallback.isSome)
    (expected : String) {position : Nat} {trees : List Tree}
    (spelled : SpellsItems (position == 0) trees text rest) :
    ∃ left first, SpellsItems first (trees.drop fields.length) left rest ∧
      Gives (fieldsInOrder expected position (fields.map (Field.map Shape.reader))) text
        (inOrder? fields trees) left := by
  induction fields generalizing trees text position with
  | nil => exact ⟨text, _, spelled, reads_pure [] text⟩
  | cons field fields ih =>
    have own := fits field List.mem_cons_self
    have fits' : ∀ field ∈ fields, Fits field.content.reader field.content.decode :=
      fun other mem => fits other (List.mem_cons_of_mem field mem)
    have trailing' : ∀ field ∈ fields, field.trailing = field.fallback.isSome :=
      fun other mem => trailing other (List.mem_cons_of_mem field mem)
    cases spelled with
    | close blanks =>
      have closing : SpellsItems (position + 1 == 0) [] (']' :: rest) rest := .close .done
      obtain ⟨left, first, spelled, gives⟩ := ih fits' trailing' closing
      refine ⟨left, first, by simpa using spelled, ?_⟩
      apply (reads_moreElements_close blanks).bind_gives
      rw [if_neg Bool.false_ne_true, atEndOfList_map _ (trailing field List.mem_cons_self),
        inOrder?_nil]
      cases field.fallback with
      | none => exact ((refusesAll_mismatchBefore _ _).refuses _).bind _
      | some datum =>
        apply (reads_pure datum _).bind_gives
        exact gives.bind fun data _ => reads_pure (datum :: data) left
    | @item _ tree trees _ _ behind _ leads value others =>
      have later : SpellsItems (position + 1 == 0) trees behind rest := others
      obtain ⟨left, first, spelled, gives⟩ := ih fits' trailing' later
      refine ⟨left, first, spelled, ?_⟩
      obtain ⟨c, cs, rfl, opens⟩ := value.exists_opening
      apply (reads_moreElements leads opens.isOpening.isToken
        (opens.isOpening.ne (by decide))).bind_gives
      rw [if_pos rfl, inOrder?_cons]
      apply Gives.bind (own .done value others.ended)
      intro datum _
      exact gives.bind fun data _ => reads_pure (datum :: data) left

/-! ## Records given by name -/

/-- The members of an object are read up to its closing brace. -/
theorem gives_fieldsByName {fields : List (Field Shape)}
    (fits : ∀ field ∈ fields, Fits field.content.reader field.content.decode)
    (distinct : (fields.map Field.name).Nodup) {members : List (String × Tree)} {first : Bool}
    (spelled : SpellsMembers first members text rest) {turns : Bytes}
    (enough : text.length < turns.length) (known : String → Option Datum) :
    Gives (fieldsByName (fields.map (Field.map Shape.reader)) turns first (given fields known)) text
      ((collect? fields members known).map (given fields)) ('}' :: rest) := by
  induction members generalizing first text turns known with
  | nil =>
    cases turns with
    | nil => cases enough
    | cons turn turns =>
      cases spelled with
      | close blanks =>
        apply (reads_moreMembers_close blanks).bind_gives
        rw [if_neg Bool.false_ne_true]
        exact reads_pure (given fields known) _
  | cons member members ih =>
    cases turns with
    | nil => cases enough
    | cons turn turns =>
      cases spelled with
      | @member _ name tree _ _ front named afterColon value behind _ leads spelled before between
          content others =>
        have enough : behind.length < turns.length := by
          have := leads.length_le
          have := spelled.length_lt
          have := before.length_le
          have := between.length_le
          have := content.length_lt
          simp only [List.length_cons] at *
          omega
        apply (reads_moreMembers leads).bind_gives
        rw [if_pos rfl]
        apply (reads_memberName spelled).bind_gives
        rw [List.findIdx?_map, List.find?_map]
        have search :
            (fun field : Field (Reader Datum) => field.name == name) ∘ Field.map Shape.reader
              = fun field : Field Shape => field.name == name := rfl
        rw [search, collect?]
        rcases find_cases fields name with
          ⟨index, found⟩ | ⟨position, field, index, found, place, rfl⟩
        · rw [index, found]
          apply (reads_colon before).bind_gives
          apply (reads_skipValue between content others.ended).bind_gives
          exact ih others enough known
        · rw [index, found]
          dsimp only [Option.map_some]
          rw [given_join place]
          split
          · exact (refusesAll_mismatchBefore _ _).refuses _
          · apply (reads_colon before).bind_gives
            have own := fits field (List.mem_of_getElem? place) between content others.ended
            show Gives _ _ (Option.map _ ((field.content.decode tree).bind fun datum =>
              collect? fields members (Function.update known field.name (some datum)))) _
            rw [Option.map_bind]
            apply own.bind
            intro datum _
            rw [given_set distinct place]
            exact ih others enough (Function.update known field.name (some datum))

/-! ## Records -/

theorem fieldReaders_eq (fields : List (Field Shape)) :
    fieldReaders fields = fields.map (Field.map Shape.reader) := by
  induction fields with
  | nil => rfl
  | cons field fields ih => rw [fieldReaders, ih]; rfl

/-- A record that is given in order, behind its opening bracket. -/
theorem gives_record_array {fields : List (Field Shape)} {title : String}
    (plain : (Shape.record title fields).isPlain = true)
    (fits : ∀ field ∈ fields, Fits field.content.reader field.content.decode) (expected : String)
    {trees : List Tree} (spelled : SpellsItems true trees text rest) :
    Gives (do
      let read ← fieldsInOrder expected 0 (fieldReaders fields)
      closeList
      return Datum.record read) text ((Shape.record title fields).decode (.array trees)) rest := by
  obtain ⟨distinct, inner⟩ := isPlain_record.mp plain
  have trailing : ∀ field ∈ fields, field.trailing = field.fallback.isSome :=
    fun field mem => (inner field mem).1
  have front : SpellsItems (0 == 0) trees text rest := spelled
  obtain ⟨left, first, spelled, gives⟩ := gives_fieldsInOrder fits trailing expected front
  rw [fieldReaders_eq, decode_record, Tree.members?, List.length_map]
  split
  · next enough =>
    rw [List.drop_eq_nil_of_le enough] at spelled
    rw [Option.bind_some, ← inOrder?_eq distinct, Option.map_eq_bind]
    apply gives.bind
    intro data _
    cases spelled with
    | close blanks => exact (reads_closeList blanks).bind (reads_pure _ rest)
  · next excess =>
    have refuses : Refuses closeList left := by
      cases others : trees.drop fields.length with
      | nil => exact absurd (List.drop_eq_nil_iff.mp others) excess
      | cons tree trees =>
        rw [others] at spelled
        cases spelled with
        | item leads value =>
          obtain ⟨c, cs, rfl, opens⟩ := value.exists_opening
          exact refuses_closeList leads opens.isOpening.isToken (opens.isOpening.ne (by decide))
    have none : (inOrder? fields trees).bind (fun _ => none) = (none : Option Datum) := by
      cases inOrder? fields trees <;> rfl
    rw [Option.bind_none, ← none]
    exact gives.bind fun data _ => refuses.bind _

/-- A record that is given by name, behind its opening brace. -/
theorem gives_record_object {fields : List (Field Shape)} {title : String}
    (plain : (Shape.record title fields).isPlain = true)
    (fits : ∀ field ∈ fields, Fits field.content.reader field.content.decode)
    {members : List (String × Tree)} (spelled : SpellsMembers true members text rest) :
    Gives (do
      let given ← fieldsByName (fieldReaders fields) (← turns) true
        ((fieldReaders fields).map fun _ => none)
      match complete (fieldReaders fields) given with
      | .ok read => do
        closeObject
        return Datum.record read
      | .error m => mismatchBefore 125 m) text
      ((Shape.record title fields).decode (.object members)) rest := by
  obtain ⟨distinct, -⟩ := isPlain_record.mp plain
  have enough : text.length < (0 :: encodeChars text).length :=
    Nat.lt_succ_of_le (length_le_encodeChars text)
  have all := gives_fieldsByName fits distinct spelled enough fun _ => none
  have search :
      fields.mapM (Field.pick? · members) = fields.mapM (later? (fun _ => none) members) := by
    apply mapM_congr
    intro field _
    rw [Field.pick?, later?]
    rcases Tree.valueOf? field.name members with _ | _ | _ <;> rfl
  have start :
      ((fields.map (Field.map Shape.reader)).map fun _ => none) = given fields fun _ => none := by
    rw [List.map_map]
    rfl
  rw [decode_record, Tree.members?, Option.bind_some, search, ← collect?_bind_settle? distinct,
    fieldReaders_eq, start]
  apply (reads_turns text).bind_gives
  cases collected : collect? fields members fun _ => none with
  | none =>
    rw [collected] at all
    exact Refuses.bind all _
  | some known =>
    rw [collected] at all
    apply Reads.bind_gives all
    rw [Option.bind_some, ← toOption_complete]
    cases complete (fields.map (Field.map Shape.reader)) (given fields known) with
    | ok read => exact (reads_closeObject .done).bind (reads_pure _ rest)
    | error m => exact (refusesAll_mismatchBefore _ m).refuses _

theorem fits_record {fields : List (Field Shape)} {title : String}
    (plain : (Shape.record title fields).isPlain = true)
    (fits : ∀ field ∈ fields, Fits field.content.reader field.content.decode) :
    Fits (Shape.record title fields).reader (Shape.record title fields).decode := by
  intro tree text front rest blanks spelled ended
  by_cases bracket : tree.OpensWith '['
  · obtain ⟨trees, rfl⟩ := Tree.opensWith_bracket.mp bracket
    cases spelled with
    | array spelled =>
      apply (reads_peekToken blanks (by decide)).bind_gives
      apply (reads_skip (by decide) _).bind_gives
      exact gives_record_array plain fits _ spelled
  · by_cases brace : tree.OpensWith '{'
    · obtain ⟨members, rfl⟩ := Tree.opensWith_brace.mp brace
      cases spelled with
      | object spelled =>
        apply (reads_peekToken blanks (by decide)).bind_gives
        apply (reads_skip (by decide) _).bind_gives
        exact gives_record_object plain fits spelled
    · obtain ⟨c, cs, same, token, ne⟩ := exists_other spelled '[' (b := 91) rfl (by decide) bracket
      obtain ⟨c', cs', rfl, _, ne'⟩ := exists_other spelled '{' (b := 123) rfl (by decide) brace
      cases same
      have none : (Shape.record title fields).decode tree = none := by
        rw [decode_record]
        cases tree with
        | array items => exact absurd rfl bracket
        | object members => exact absurd rfl brace
        | _ => rfl
      rw [none]
      apply (reads_peekToken blanks token).bind_refuses
      dsimp only
      rw [if_neg ne, if_neg ne']
      exact (refusesAll_unexpected _).refuses _

end Json.Reader

namespace Shape

mutual

/-- The reader of a shape finds in every spelling of a tree what the tree holds. -/
theorem fits_reader (shape : Shape) (plain : shape.isPlain = true) :
    Fits shape.reader shape.decode := by
  cases shape with
  | text expected => exact fits_text expected
  | natural => cases plain
  | optional inner => exact fits_optional (fits_reader inner plain)
  | list inner => exact fits_list (fits_reader inner plain)
  | record title fields => exact fits_record plain (fits_fields fields (isPlain_record.mp plain).2)

theorem fits_fields (fields : List (Field Shape))
    (plain : ∀ field ∈ fields, field.trailing = field.fallback.isSome ∧
      field.content.isPlain = true) :
    ∀ field ∈ fields, Fits field.content.reader field.content.decode := by
  cases fields with
  | nil => exact nofun
  | cons field fields =>
    obtain ⟨name, fallback, trailing, content⟩ := field
    intro other mem
    rcases List.mem_cons.mp mem with rfl | mem
    · exact fits_reader content (plain _ List.mem_cons_self).2
    · exact fits_fields fields (fun field mem => plain field (List.mem_cons_of_mem _ mem)) other mem

end

/-- A document is read as the datum that its tree holds, and refused if it holds none. -/
theorem toOption_ofJsonText {shape : Shape} (plain : shape.isPlain = true) {tree : Tree}
    {text : List Char} (spelled : IsText tree text) :
    (shape.ofJsonText (encodeChars text)).toOption = shape.decode tree := by
  obtain ⟨front, behind, blanks, value, after⟩ := spelled
  have gives := fits_reader shape plain blanks value (after.ended ended_nil)
  have whole : Gives (do let datum ← shape.reader; atEnd; return datum) text
      ((shape.decode tree).bind some) [] :=
    gives.bind fun datum _ => (reads_atEnd after).bind (reads_pure datum [])
  rw [Option.bind_fun_some] at whole
  exact whole.readAll

end Shape

end BuildHook
