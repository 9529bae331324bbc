import BuildHook.Json.Sequence
import BuildHook.Proofs.Json.Grammar
import BuildHook.Proofs.Text.Encoding

/-!
# What readers make of a text

A reader either passes a part of the text and returns a value, or refuses the text. Both are stated
for texts of characters and from every place, since places matter to messages alone.

## Main results

`Gives.bind` follows a reader step by step. The lemmas on tokens say where the readers of
punctuation stop on a text of the grammar.
-/

namespace BuildHook.Json.Reader

open Utf8 (encodeChars encodeChars_cons encodeChar_ascii)

variable {α β : Type} {text between rest : List Char}

/-- The reader returns `a` and leaves `rest` of the text. -/
def Reads (reader : Reader α) (text : List Char) (a : α) (rest : List Char) : Prop :=
  ∀ place, ∃ after, reader.run ⟨encodeChars text, place⟩ = .ok (a, ⟨encodeChars rest, after⟩)

/-- The reader refuses the text. -/
def Refuses (reader : Reader α) (text : List Char) : Prop :=
  ∀ place, ∃ e, reader.run ⟨encodeChars text, place⟩ = .error e

/-- The reader returns what is given and leaves `rest`, or refuses the text if nothing is given. -/
def Gives (reader : Reader α) (text : List Char) (given : Option α) (rest : List Char) : Prop :=
  match given with
  | some a => Reads reader text a rest
  | none => Refuses reader text

theorem reads_pure (a : α) (text : List Char) : Reads (pure a) text a text :=
  fun place => ⟨place, rfl⟩

theorem Reads.bind {reader : Reader α} {later : α → Reader β} {a : α} {b : β}
    (front : Reads reader text a between) (behind : Reads (later a) between b rest) :
    Reads (reader >>= later) text b rest := by
  intro place
  obtain ⟨middle, first⟩ := front place
  obtain ⟨after, second⟩ := behind middle
  refine ⟨after, ?_⟩
  rw [StateT.run_bind, first]
  exact second

theorem Reads.bind_refuses {reader : Reader α} {later : α → Reader β} {a : α}
    (front : Reads reader text a between) (behind : Refuses (later a) between) :
    Refuses (reader >>= later) text := by
  intro place
  obtain ⟨middle, first⟩ := front place
  obtain ⟨e, second⟩ := behind middle
  refine ⟨e, ?_⟩
  rw [StateT.run_bind, first]
  exact second

theorem Refuses.bind {reader : Reader α} (refuses : Refuses reader text) (later : α → Reader β) :
    Refuses (reader >>= later) text := by
  intro place
  obtain ⟨e, first⟩ := refuses place
  refine ⟨e, ?_⟩
  rw [StateT.run_bind, first]
  rfl

theorem Reads.bind_gives {reader : Reader α} {later : α → Reader β} {a : α} {given : Option β}
    (front : Reads reader text a between) (behind : Gives (later a) between given rest) :
    Gives (reader >>= later) text given rest := by
  cases given with
  | some b => exact front.bind behind
  | none => exact front.bind_refuses behind

theorem Gives.bind {reader : Reader α} {later : α → Reader β} {given : Option α}
    {then? : α → Option β} (front : Gives reader text given between)
    (behind : ∀ a ∈ given, Gives (later a) between (then? a) rest) :
    Gives (reader >>= later) text (given.bind then?) rest := by
  cases given with
  | some a => exact Reads.bind_gives front (behind a rfl)
  | none => exact Refuses.bind front later

/-! ## Single steps -/

/-- The reader refuses every text, even one that is cut inside a character. -/
def RefusesAll (reader : Reader α) : Prop := ∀ cursor, ∃ e, reader.run cursor = .error e

theorem RefusesAll.refuses {reader : Reader α} (refuses : RefusesAll reader) (text : List Char) :
    Refuses reader text :=
  fun _ => refuses _

theorem refusesAll_fail (fault : Fault) : RefusesAll (fail fault : Reader α) := fun _ => ⟨_, rfl⟩

theorem refusesAll_failAfter (fault : Fault) : RefusesAll (failAfter fault : Reader α) :=
  fun _ => ⟨_, rfl⟩

/-- A reader whose last step is a refusal refuses every text. -/
theorem refusesAll_bind (reader : Reader α) {later : α → Reader β}
    (refuses : ∀ a, RefusesAll (later a)) : RefusesAll (reader >>= later) := by
  intro cursor
  rw [StateT.run_bind]
  cases reader.run cursor with
  | error e => exact ⟨e, rfl⟩
  | ok read => exact refuses read.1 read.2

theorem encodeChars_cons_ascii {c : Char} (ascii : c.toNat < 128) (cs : List Char) :
    encodeChars (c :: cs) = UInt8.ofNat c.toNat :: encodeChars cs := by
  rw [encodeChars_cons, encodeChar_ascii ascii, List.singleton_append]

theorem reads_skip {c : Char} (ascii : c.toNat < 128) (text : List Char) :
    Reads skip (c :: text) () text := by
  intro place
  rw [encodeChars_cons_ascii ascii]
  exact ⟨_, rfl⟩

theorem reads_peek {c : Char} (ascii : c.toNat < 128) (text : List Char) :
    Reads peek (c :: text) (some (UInt8.ofNat c.toNat)) (c :: text) := by
  intro place
  rw [encodeChars_cons_ascii ascii]
  exact ⟨_, rfl⟩

theorem reads_next {c : Char} (ascii : c.toNat < 128) (text : List Char) :
    Reads next (c :: text) (some (UInt8.ofNat c.toNat)) text :=
  (reads_peek ascii text).bind ((reads_skip ascii text).bind (reads_pure _ _))

theorem reads_turns (text : List Char) : Reads turns text (0 :: encodeChars text) text :=
  fun place => ⟨place, rfl⟩

theorem reads_word (cs : List Char) (ascii : ∀ c ∈ cs, c.toNat < 128) (text : List Char) :
    Reads (word (encodeChars cs)) (cs ++ text) () text := by
  induction cs with
  | nil => exact reads_pure () text
  | cons c cs ih =>
    have small := ascii c List.mem_cons_self
    rw [encodeChars_cons_ascii small]
    apply (reads_next small _).bind
    dsimp only
    rw [if_pos rfl]
    exact ih fun d mem => ascii d (List.mem_cons_of_mem c mem)

/-! ## Blanks and tokens -/

theorem isSpace_of_isBlank {c : Char} (blank : IsBlank c) :
    isSpace (UInt8.ofNat c.toNat) = true := by
  rcases isBlank_iff.mp blank with rfl | rfl | rfl | rfl <;> rfl

theorem isBlank_of_isSpace {c : Char} (ascii : c.toNat < 128)
    (space : isSpace (UInt8.ofNat c.toNat) = true) : IsBlank c := by
  have code : (UInt8.ofNat c.toNat).toNat = c.toNat := by
    rw [UInt8.toNat_ofNat']
    omega
  simp only [isSpace, Bool.or_eq_true, beq_iff_eq, ← UInt8.toNat_inj, code] at space
  have known : ∀ n ∈ [32, 10, 9, 13], Char.ofNat n ∈ [' ', '\t', '\n', '\r'] := by decide
  rw [IsBlank, ← Char.ofNat_toNat c]
  apply known
  simpa [or_assoc] using space

theorem passSpaces_stop {c : Char} (token : IsToken c) (place : Place) (text : List Char) :
    passSpaces place (encodeChars (c :: text)) = ⟨encodeChars (c :: text), place⟩ := by
  rw [encodeChars_cons_ascii token.1, passSpaces, if_neg]
  exact fun space => token.2 (isBlank_of_isSpace token.1 space)

/-- Passing blanks stops where `rest` begins, if it begins with none. -/
theorem passSpaces_blanks (blanks : Blanks text rest)
    (stop : ∀ place, passSpaces place (encodeChars rest) = ⟨encodeChars rest, place⟩)
    (place : Place) :
    ∃ after, passSpaces place (encodeChars text) = ⟨encodeChars rest, after⟩ := by
  induction blanks generalizing place with
  | done => exact ⟨place, stop place⟩
  | blank blank _ ih =>
    have ascii := Nat.lt_of_le_of_lt blank.toNat_le (show 32 < 128 by decide)
    rw [encodeChars_cons_ascii ascii, passSpaces, if_pos (isSpace_of_isBlank blank)]
    exact ih stop _

/-- The next token is looked at and left in place. -/
theorem reads_peekToken {c : Char} (blanks : Blanks text (c :: rest)) (token : IsToken c) :
    Reads peekToken text (some (UInt8.ofNat c.toNat)) (c :: rest) := by
  intro place
  obtain ⟨after, passed⟩ := passSpaces_blanks blanks (passSpaces_stop token · rest) place
  refine ⟨after, ?_⟩
  have looked : peekToken.run ⟨encodeChars text, place⟩
      = peek.run (passSpaces place (encodeChars text)) := rfl
  rw [looked, passed, encodeChars_cons_ascii token.1]
  rfl

theorem reads_peekToken_end (blanks : Blanks text []) : Reads peekToken text none [] := by
  intro place
  obtain ⟨after, passed⟩ := passSpaces_blanks blanks (fun _ => rfl) place
  refine ⟨after, ?_⟩
  have looked : peekToken.run ⟨encodeChars text, place⟩
      = peek.run (passSpaces place (encodeChars text)) := rfl
  rw [looked, passed]
  rfl

theorem reads_closeList (blanks : Blanks text (']' :: rest)) : Reads closeList text () rest :=
  (reads_peekToken blanks (by decide)).bind (reads_skip (by decide) rest)

theorem reads_closeObject (blanks : Blanks text ('}' :: rest)) : Reads closeObject text () rest :=
  (reads_peekToken blanks (by decide)).bind (reads_skip (by decide) rest)

theorem reads_colon (blanks : Blanks text (':' :: rest)) : Reads colon text () rest :=
  (reads_peekToken blanks (by decide)).bind (reads_skip (by decide) rest)

theorem ofNat_toNat_ne {c d : Char} (small : c.toNat < 128) (ascii : d.toNat < 128) (ne : c ≠ d) :
    UInt8.ofNat c.toNat ≠ UInt8.ofNat d.toNat := by
  intro same
  rw [← UInt8.toNat_inj, UInt8.toNat_ofNat', UInt8.toNat_ofNat'] at same
  apply ne
  rw [← Char.ofNat_toNat c, ← Char.ofNat_toNat d, show c.toNat = d.toNat by omega]

theorem reads_moreElements_close {first : Bool} (blanks : Blanks text (']' :: rest)) :
    Reads (moreElements first) text false (']' :: rest) :=
  (reads_peekToken blanks (by decide)).bind (reads_pure false _)

/-- Another item is announced where it begins. -/
theorem reads_moreElements {first : Bool} {c : Char} (leads : Leads first text (c :: rest))
    (token : IsToken c) (ne : c ≠ ']') : Reads (moreElements first) text true (c :: rest) := by
  have other : UInt8.ofNat c.toNat ≠ 93 := ofNat_toNat_ne token.1 (by decide) ne
  cases leads with
  | first blanks =>
    apply (reads_peekToken blanks token).bind
    dsimp only
    rw [if_neg other, if_pos rfl]
    exact reads_pure true _
  | later before behind =>
    apply (reads_peekToken before (by decide)).bind
    apply (reads_skip (by decide) _).bind
    apply (reads_peekToken behind token).bind
    dsimp only
    rw [if_neg other]
    exact reads_pure true _

/-- An array that goes on is not closed. -/
theorem refuses_closeList {first : Bool} {c : Char} (leads : Leads first text (c :: rest))
    (token : IsToken c) (ne : c ≠ ']') : Refuses closeList text := by
  obtain ⟨b, other, between, next⟩ :
      ∃ b ≠ 93, ∃ between, Reads peekToken text (some b) between := by
    cases leads with
    | first blanks =>
      have other : UInt8.ofNat c.toNat ≠ 93 := ofNat_toNat_ne token.1 (by decide) ne
      exact ⟨_, other, _, reads_peekToken blanks token⟩
    | later before behind => exact ⟨_, by decide, _, reads_peekToken before (by decide)⟩
  apply next.bind_refuses
  dsimp only
  rw [if_neg other]
  apply RefusesAll.refuses
  split
  · apply refusesAll_bind
    intro _
    apply refusesAll_bind
    intro looked
    split
    · exact refusesAll_failAfter _
    · exact refusesAll_failAfter _
  · exact refusesAll_failAfter _

theorem reads_moreMembers_close {first : Bool} (blanks : Blanks text ('}' :: rest)) :
    Reads (moreMembers first) text false ('}' :: rest) :=
  (reads_peekToken blanks (by decide)).bind (reads_pure false _)

/-- Another member is announced where its name begins. -/
theorem reads_moreMembers {first : Bool} (leads : Leads first text ('"' :: rest)) :
    Reads (moreMembers first) text true ('"' :: rest) := by
  cases leads with
  | first blanks => exact (reads_peekToken blanks (by decide)).bind (reads_pure true _)
  | later before behind =>
    apply (reads_peekToken before (by decide)).bind
    apply (reads_skip (by decide) _).bind
    exact (reads_peekToken behind (by decide)).bind (reads_pure true _)

theorem refusesAll_mismatchBefore (closing : UInt8) (m : Mismatch) :
    RefusesAll (mismatchBefore closing m : Reader α) := by
  apply refusesAll_bind
  intro looked
  dsimp only
  split
  · exact refusesAll_bind _ fun _ => refusesAll_fail _
  · exact refusesAll_fail _

theorem reads_atEnd (blanks : Blanks text []) : Reads atEnd text () [] :=
  (reads_peekToken_end blanks).bind (reads_pure () [])

/-- A reader of whole texts returns what is given. -/
theorem Gives.readAll {reader : Reader α} {given : Option α}
    (gives : Gives reader text given rest) :
    (reader.readAll (encodeChars text)).toOption = given := by
  unfold Reader.readAll Cursor.start
  cases given with
  | some a =>
    have reads : Reads reader text a rest := gives
    obtain ⟨after, read⟩ := reads Place.start
    rw [read]
    rfl
  | none =>
    have refuses : Refuses reader text := gives
    obtain ⟨e, read⟩ := refuses Place.start
    rw [read]
    rfl

end BuildHook.Json.Reader
