import BuildHook.Proofs.Json.Values
import BuildHook.Script.Sandbox

/-!
# Programs of bindings

Whatever values are bound, the program of a sandbox stays one statement a line, and the statements
can be read back from it. A name is read up to the first character that is none of a name, and a
value tells itself where it ends.

## Main results

`reads_statement` reads one statement back, `bindEach_decodes` a whole program.
-/

namespace BuildHook.Sandbox

open Json (IsExact IsPrinted Reader ended_cons isPrinted_append)
open Json.Reader (Reads encodeChars_cons_ascii fail next peek reads_next reads_peek reads_pure
  reads_word word)
open Utf8 (encodeChars encodeChars_append)

/-- The characters with which an identifier begins: `A` to `Z`, `a` to `z`, `_` and `$`. -/
def IsInitial (c : Char) : Prop := 'A' ≤ c ∧ c ≤ 'Z' ∨ 'a' ≤ c ∧ c ≤ 'z' ∨ c = '_' ∨ c = '$'

instance (c : Char) : Decidable (IsInitial c) := inferInstanceAs (Decidable (_ ∨ _))

/-- The characters of identifiers: those with which one begins, and `0` to `9`. -/
def IsLetter (c : Char) : Prop := IsInitial c ∨ '0' ≤ c ∧ c ≤ '9'

instance (c : Char) : Decidable (IsLetter c) := inferInstanceAs (Decidable (_ ∨ _))

/-- One letter or more, of which the first begins an identifier. -/
def IsIdentifier (name : String) : Prop :=
  (∃ c ∈ name.toList.head?, IsInitial c) ∧ ∀ c ∈ name.toList, IsLetter c

theorem isAlpha_iff {c : Char} : c.isAlpha = true ↔ 'A' ≤ c ∧ c ≤ 'Z' ∨ 'a' ≤ c ∧ c ≤ 'z' := by
  have upper : c.isUpper = true ↔ 'A' ≤ c ∧ c ≤ 'Z' := decide_eq_true_iff
  have lower : c.isLower = true ↔ 'a' ≤ c ∧ c ≤ 'z' :=
    Bool.and_eq_true_iff.trans (and_congr decide_eq_true_iff decide_eq_true_iff)
  exact Bool.or_eq_true_iff.trans (or_congr upper lower)

theorem isNameStart_iff {c : Char} : isNameStart c = true ↔ IsInitial c := by
  rw [isNameStart, Bool.or_eq_true, Bool.or_eq_true, isAlpha_iff, beq_iff_eq, beq_iff_eq, or_assoc,
    or_assoc]
  exact Iff.rfl

theorem isLetter_iff {c : Char} : (isNameStart c || c.isDigit) = true ↔ IsLetter c := by
  have digit : c.isDigit = true ↔ '0' ≤ c ∧ c ≤ '9' :=
    Bool.and_eq_true_iff.trans (and_congr decide_eq_true_iff decide_eq_true_iff)
  rw [Bool.or_eq_true, isNameStart_iff, digit, IsLetter]

/-- Exactly the identifiers are taken as names. -/
theorem isName_iff {name : String} : isName name = true ↔ IsIdentifier name := by
  unfold isName IsIdentifier
  cases name.toList with
  | nil => simp
  | cons c rest =>
    simp only [Bool.and_eq_true, isNameStart_iff, List.all_eq_true, isLetter_iff, List.head?_cons,
      Option.mem_some_iff, exists_eq_left', List.forall_mem_cons]
    constructor
    · rintro ⟨initial, letters⟩
      exact ⟨initial, .inl initial, letters⟩
    · rintro ⟨initial, -, letters⟩
      exact ⟨initial, letters⟩

instance (name : String) : Decidable (IsIdentifier name) := decidable_of_iff _ isName_iff

/-! ## A reader of programs -/

/-- Takes the letters in front. -/
def takeLetters (place : Json.Place) : Bytes → List Char × Json.Cursor
  | [] => ([], ⟨[], place⟩)
  | b :: bs =>
    if IsLetter (Char.ofNat b.toNat) then
      let (letters, after) := takeLetters (place.after b) bs
      (Char.ofNat b.toNat :: letters, after)
    else ([], ⟨b :: bs, place⟩)

/-- Reads an identifier, up to the first byte that is no letter. -/
def identifier : Reader String := do
  match ← next with
  | none => fail .eofInValue
  | some b =>
    if IsInitial (Char.ofNat b.toNat) then do
      let c ← get
      let (letters, after) := takeLetters c.place c.rest
      set after
      return String.ofList (Char.ofNat b.toNat :: letters)
    else fail .expectedIdent

/-- Reads a value that may be nested as deep as there are bytes. -/
def boundValue : Reader Json := do
  let size := (← get).rest.length
  Json.Reader.value size size

/-- Reads `var `, an identifier, ` = `, a value, and `;` with a line feed. -/
def statement : Reader (String × Json) := do
  word (encodeChars "var ".toList)
  let name ← identifier
  word (encodeChars " = ".toList)
  let value ← boundValue
  word (encodeChars ";\n".toList)
  return (name, value)

/-- Reads statements to the end of the text. -/
def statements : Nat → Reader (List (String × Json))
  | 0 => fail .trailingCharacters
  | turns + 1 => do
    match ← peek with
    | none => return []
    | some _ => do
      let first ← statement
      let rest ← statements turns
      return first :: rest

/-- The bindings of a program. -/
def decode (program : String) : Except Json.Error (List (String × Json)) :=
  let bytes := Utf8.encode program
  (statements (bytes.length + 1)).readAll bytes

/-! ## Names -/

theorem IsLetter.toNat_le {c : Char} (letter : IsLetter c) : 0x20 ≤ c.toNat ∧ c.toNat < 128 := by
  simp only [IsLetter, IsInitial, Char.le_def, UInt32.le_iff_toNat_le] at letter
  rcases letter with (⟨low, high⟩ | ⟨low, high⟩ | rfl | rfl) | ⟨low, high⟩
  · change 65 ≤ c.toNat at low
    change c.toNat ≤ 90 at high
    omega
  · change 97 ≤ c.toNat at low
    change c.toNat ≤ 122 at high
    omega
  · decide
  · decide
  · change 48 ≤ c.toNat at low
    change c.toNat ≤ 57 at high
    omega

theorem char_ofNat_byte {c : Char} (ascii : c.toNat < 128) :
    Char.ofNat (UInt8.ofNat c.toNat).toNat = c := by
  rw [UInt8.toNat_ofNat', Nat.mod_eq_of_lt (by omega), Char.ofNat_toNat]

theorem takeLetters_append {letters : List Char} (all : ∀ c ∈ letters, IsLetter c)
    (rest : List Char) (place : Json.Place) :
    ∃ after, takeLetters place (encodeChars (letters ++ ' ' :: rest))
      = (letters, ⟨encodeChars (' ' :: rest), after⟩) := by
  induction letters generalizing place with
  | nil =>
    refine ⟨place, ?_⟩
    rw [List.nil_append, encodeChars_cons_ascii (by decide), takeLetters, if_neg (by decide)]
  | cons c letters ih =>
    obtain ⟨here, later⟩ := List.forall_mem_cons.mp all
    have ascii := here.toNat_le.2
    obtain ⟨after, taken⟩ := ih later (place.after (UInt8.ofNat c.toNat))
    refine ⟨after, ?_⟩
    rw [List.cons_append, encodeChars_cons_ascii ascii, takeLetters, char_ofNat_byte ascii,
      if_pos here, taken]

/-- A name is read up to the blank behind it. -/
theorem reads_identifier {name : String} (named : IsIdentifier name) (rest : List Char) :
    Reads identifier (name.toList ++ ' ' :: rest) name (' ' :: rest) := by
  obtain ⟨⟨c, first, initial⟩, all⟩ := named
  obtain ⟨letters, split⟩ : ∃ letters, name.toList = c :: letters := by
    cases split : name.toList with
    | nil => simp [split] at first
    | cons d letters => exact ⟨letters, by simpa [split] using first⟩
  rw [split] at all ⊢
  obtain ⟨here, later⟩ := List.forall_mem_cons.mp all
  have ascii := here.toNat_le.2
  apply (reads_next ascii _).bind
  dsimp only
  rw [char_ofNat_byte ascii, if_pos initial]
  intro place
  obtain ⟨after, taken⟩ := takeLetters_append later rest place
  refine ⟨after, ?_⟩
  show Except.ok (String.ofList (c :: (takeLetters place (encodeChars (letters ++ ' ' :: rest))).1),
    (takeLetters place (encodeChars (letters ++ ' ' :: rest))).2) = _
  rw [taken, ← split, String.ofList_toList]

/-! ## Statements -/

/-- The line of a statement, without its line feed. -/
def line (name : String) (value : Json) : List Char :=
  "var ".toList ++ (name.toList ++ (" = ".toList ++ (Json.chars value.canonical ++ [';'])))

theorem toList_binding (name : String) (value : Json) :
    (binding name value).toList = line name value ++ ['\n'] := by
  simp [binding, line, Json.render]

theorem reads_boundValue {value : Json} (exact : value.IsExact) {rest : List Char}
    (ended : Json.Ended rest) :
    Reads boundValue (Json.chars value ++ rest) value rest := by
  have enough : (Json.chars value).length ≤ (encodeChars (Json.chars value ++ rest)).length := by
    have := Utf8.length_le_encodeChars (Json.chars value)
    rw [encodeChars_append, List.length_append]
    omega
  exact fun place => exact.readsBack _ _ enough enough ended place

/-- A statement is read back, whatever follows it. -/
theorem reads_statement {name : String} {value : Json} (named : IsIdentifier name)
    (exact : value.IsExact) (rest : List Char) :
    Reads statement (line name value ++ '\n' :: rest) (name, value.canonical) rest := by
  have ended : Json.Ended (";\n".toList ++ rest) := ended_cons.mpr (by decide)
  have text : line name value ++ '\n' :: rest = "var ".toList ++ (name.toList
      ++ ' ' :: ("= ".toList ++ (Json.chars value.canonical ++ (";\n".toList ++ rest)))) := by
    simp [line]
  rw [text]
  apply (reads_word "var ".toList (by simp) _).bind
  apply (reads_identifier named _).bind
  apply (reads_word " = ".toList (by simp) _).bind
  apply (reads_boundValue exact.canonical ended).bind
  exact (reads_word ";\n".toList (by simp) rest).bind (reads_pure _ rest)

/-- Nothing in the line of a statement is a control character. -/
theorem isPrinted_line {name : String} {value : Json} (named : IsIdentifier name)
    (exact : value.IsExact) : IsPrinted (line name value) := by
  have letters : IsPrinted name.toList := fun c mem => (named.2 c mem).toNat_le.1
  simp only [line, isPrinted_append]
  exact ⟨by decide, letters, by decide, exact.canonical.isPrinted_chars, by decide⟩

/-- The statements of a list of bindings, one a line. -/
def lines (bindings : List (String × Json)) : List Char :=
  bindings.flatMap fun (name, value) => line name value ++ ['\n']

theorem lines_cons (name : String) (value : Json) (bindings : List (String × Json)) :
    lines ((name, value) :: bindings) = line name value ++ '\n' :: lines bindings := by
  simp [lines]

theorem length_le_lines (bindings : List (String × Json)) :
    bindings.length ≤ (lines bindings).length := by
  induction bindings with
  | nil => exact Nat.le_refl 0
  | cons binding bindings ih =>
    rw [lines_cons, List.length_append, List.length_cons, List.length_cons]
    omega

/-- The values as they are printed: with the members of objects sorted by name. -/
def printed (bindings : List (String × Json)) : List (String × Json) :=
  bindings.map fun (name, value) => (name, value.canonical)

theorem reads_statements {bindings : List (String × Json)}
    (named : ∀ binding ∈ bindings, IsIdentifier binding.1)
    (exact : ∀ binding ∈ bindings, binding.2.IsExact) {turns : Nat}
    (enough : bindings.length < turns) :
    Reads (statements turns) (lines bindings) (printed bindings) [] := by
  induction bindings generalizing turns with
  | nil =>
    obtain ⟨turns, rfl⟩ := Nat.exists_eq_add_of_le' enough
    exact fun place => ⟨place, rfl⟩
  | cons binding bindings ih =>
    obtain ⟨name, value⟩ := binding
    obtain ⟨namedHere, namedLater⟩ := List.forall_mem_cons.mp named
    obtain ⟨exactHere, exactLater⟩ := List.forall_mem_cons.mp exact
    obtain ⟨turns, rfl⟩ := Nat.exists_eq_add_of_le' (show 1 ≤ turns by omega)
    rw [List.length_cons] at enough
    have front := reads_peek (c := 'v') (by decide)
      ((line name value).tail ++ '\n' :: lines bindings)
    rw [lines_cons]
    apply front.bind
    apply (reads_statement namedHere exactHere _).bind
    exact (ih namedLater exactLater (by omega)).bind (reads_pure _ [])

/-- A program of bindings is read back whole. -/
theorem decode_lines {bindings : List (String × Json)}
    (named : ∀ binding ∈ bindings, IsIdentifier binding.1)
    (exact : ∀ binding ∈ bindings, binding.2.IsExact) :
    decode (String.ofList (lines bindings)) = .ok (printed bindings) := by
  have enough : bindings.length < (encodeChars (lines bindings)).length + 1 := by
    have := length_le_lines bindings
    have := Utf8.length_le_encodeChars (lines bindings)
    omega
  obtain ⟨after, read⟩ := reads_statements named exact enough Json.Place.start
  rw [decode, Utf8.encode_eq, String.toList_ofList, Reader.readAll, Json.Cursor.start, read]

/-- Each statement has a line of its own. -/
theorem splitOn_lines {bindings : List (String × Json)}
    (named : ∀ binding ∈ bindings, IsIdentifier binding.1)
    (exact : ∀ binding ∈ bindings, binding.2.IsExact) :
    (lines bindings).splitOn '\n'
      = (bindings.map fun (name, value) => line name value) ++ [[]] := by
  induction bindings with
  | nil => exact List.splitOn_nil '\n'
  | cons binding bindings ih =>
    obtain ⟨name, value⟩ := binding
    obtain ⟨namedHere, namedLater⟩ := List.forall_mem_cons.mp named
    obtain ⟨exactHere, exactLater⟩ := List.forall_mem_cons.mp exact
    have whole : '\n' ∉ line name value := fun mem =>
      absurd (isPrinted_line namedHere exactHere '\n' mem) (by decide)
    rw [lines_cons, List.splitOn_append_cons_self_of_not_mem whole, ih namedLater exactLater]
    rfl

/-! ## Sequences of calls -/

/-- Binds some values one after the other. -/
def bindEach (s : Sandbox) : List (String × Json) → List (Except SandboxError Unit) × Sandbox
  | [] => ([], s)
  | (name, value) :: calls =>
    let (result, s) := s.bind name value
    let (results, s) := s.bindEach calls
    (result :: results, s)

/-- The calls whose name is an identifier. -/
def accepted (calls : List (String × Json)) : List (String × Json) :=
  calls.filter fun call => IsIdentifier call.1

/-- What a call with a name comes to. -/
def bindResult (name : String) : Except SandboxError Unit :=
  if IsIdentifier name then .ok () else .error (.invalidName name)

/-- A value is bound exactly to an identifier, and any other name is told and changes nothing. -/
theorem bind_eq (s : Sandbox) (name : String) (value : Json) :
    s.bind name value
      = (bindResult name, if IsIdentifier name then s.extend (binding name value) else s) := by
  unfold bind bindResult
  by_cases valid : IsIdentifier name
  · rw [if_pos (isName_iff.mpr valid), if_pos valid, if_pos valid]
  · rw [if_neg (mt isName_iff.mp valid), if_neg valid, if_neg valid]

theorem ofList_lines_cons (name : String) (value : Json) (bindings : List (String × Json)) :
    String.ofList (lines ((name, value) :: bindings))
      = binding name value ++ String.ofList (lines bindings) := by
  rw [← String.toList_inj]
  simp [toList_binding, lines_cons]

theorem extend_lines_cons (s : Sandbox) (name : String) (value : Json)
    (bindings : List (String × Json)) :
    (s.extend (binding name value)).extend (String.ofList (lines bindings))
      = s.extend (String.ofList (lines ((name, value) :: bindings))) := by
  rw [ofList_lines_cons]
  simp [extend, String.append_assoc]

/-- The program is that of the accepted calls. -/
theorem bindEach_eq (s : Sandbox) (calls : List (String × Json)) :
    s.bindEach calls = (calls.map fun call => bindResult call.1,
      s.extend (String.ofList (lines (accepted calls)))) := by
  induction calls generalizing s with
  | nil => simp [bindEach, accepted, lines, extend]
  | cons call calls ih =>
    obtain ⟨name, value⟩ := call
    rw [bindEach, bind_eq]
    dsimp only
    rw [ih]
    by_cases valid : IsIdentifier name
    · have taken : accepted ((name, value) :: calls) = (name, value) :: accepted calls :=
        List.filter_cons_of_pos (by simpa using valid)
      rw [if_pos valid, extend_lines_cons, taken]
      rfl
    · have refused : accepted ((name, value) :: calls) = accepted calls :=
        List.filter_cons_of_neg (by simpa using valid)
      rw [if_neg valid, refused]
      rfl

/-- A value is bound exactly if its name is an identifier. Whatever is bound, the program of the
sandbox has one line for each binding, and is read back as the bindings that were accepted; so other
bindings would have made another program. A value whose members are sorted by name is read back as
it is, any other one as it is printed. -/
theorem bindEach_decodes (interpreter workdir : String) (calls : List (String × Json))
    (exact : ∀ call ∈ calls, call.2.IsExact) :
    let s := create interpreter workdir
    (∀ (s : Sandbox) (name : String) (value : Json), s.bind name value
      = if IsIdentifier name then (.ok (), s.extend (binding name value))
        else (.error (.invalidName name), s))
    ∧ (s.bindEach calls).1 = (calls.map fun call => bindResult call.1)
    ∧ decode (s.bindEach calls).2.program = .ok (printed (accepted calls))
    ∧ (s.bindEach calls).2.program.toList.splitOn '\n'
      = ((accepted calls).map fun (name, value) => line name value) ++ [[]]
    ∧ ((∀ call ∈ calls, call.2.IsAscending) → printed (accepted calls) = accepted calls)
    ∧ ∀ others, (∀ call ∈ others, call.2.IsExact) →
      (s.bindEach others).2.program = (s.bindEach calls).2.program →
      printed (accepted others) = printed (accepted calls) := by
  have program (calls : List (String × Json)) :
      ((create interpreter workdir).bindEach calls).2.program
        = String.ofList (lines (accepted calls)) := by
    rw [bindEach_eq]
    exact String.empty_append
  have named (calls : List (String × Json)) : ∀ binding ∈ accepted calls, IsIdentifier binding.1 :=
    fun binding mem => by simpa using (List.mem_filter.mp mem).2
  have kept {calls : List (String × Json)} {p : String × Json → Prop}
      (all : ∀ call ∈ calls, p call) : ∀ binding ∈ accepted calls, p binding :=
    fun binding mem => all binding (List.mem_filter.mp mem).1
  have decodes {calls : List (String × Json)} (exact : ∀ call ∈ calls, call.2.IsExact) :
      decode ((create interpreter workdir).bindEach calls).2.program
        = .ok (printed (accepted calls)) := by
    rw [program, decode_lines (named calls) (kept exact)]
  refine ⟨fun s name value => ?_, by rw [bindEach_eq], decodes exact, ?_, fun ascending => ?_,
    fun others exact' same => ?_⟩
  · rw [bind_eq, bindResult]
    split <;> rfl
  · rw [program, String.toList_ofList, splitOn_lines (named calls) (kept exact)]
  · refine (List.map_congr_left fun binding mem => ?_).trans (List.map_id _)
    exact Prod.ext rfl (kept ascending binding mem).canonical_eq
  · have both := decodes exact'
    rw [same, decodes exact] at both
    exact (Except.ok.inj both).symm

namespace Sample

/-- Values with quotes, backslashes and line feeds, one of them nested, under good and bad names. -/
def calls : List (String × Json) :=
  [("$a_1", .string "\";\nvar b = \\"), ("1a", .null),
    ("b", .object [("y", .array [.int (-7), .object []]), ("x", .string "é\u2028")]),
    ("a b", .bool true)]

theorem calls_exact : ∀ call ∈ calls, call.2.IsExact := by
  have integer : (Json.int (-7)).IsExact := .int (by decide)
  have empty : (Json.object []).IsExact := .object (List.forall_mem_nil _)
  have elements : ∀ value ∈ [Json.int (-7), .object []], value.IsExact :=
    List.forall_mem_cons.mpr ⟨integer, List.forall_mem_singleton.mpr empty⟩
  simp only [calls, List.forall_mem_cons]
  refine ⟨.string _, .null, .object ?_, .bool true, List.forall_mem_nil _⟩
  exact List.forall_mem_cons.mpr
    ⟨.array elements, List.forall_mem_singleton.mpr (.string _)⟩

end Sample

/-- The sample values that are accepted are read back. -/
theorem bindEach_decodes_quotes :
    (∀ call ∈ Sample.calls, call.2.IsExact)
    ∧ decode ((create "node" "w").bindEach Sample.calls).2.program
      = .ok [("$a_1", .string "\";\nvar b = \\"),
        ("b", .object [("x", .string "é\u2028"), ("y", .array [.int (-7), .object []])])] :=
  ⟨Sample.calls_exact, (bindEach_decodes "node" "w" Sample.calls Sample.calls_exact).2.2.1⟩

end BuildHook.Sandbox
