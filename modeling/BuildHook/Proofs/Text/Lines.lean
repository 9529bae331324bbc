import BuildHook.Text.Lines
import Mathlib.Data.List.DropRight

/-!
# Lines without the blanks at their ends

A text is trimmed to what stands between its first and its last character that is not blank. For
lines that are trimmed it does not matter how a line ends, and blanks behind a text add no line that
is left after trimming.

## Main results

`isCore_iff` says what trimming leaves, and `infix_trim_iff` and `prefix_trim_iff` what can be found
in it. `cores_lines` finds the trimmed lines of a text between its line feeds, and
`cores_rows_append` says that they stay the same when blanks follow.
-/

namespace BuildHook.Text

/-- A text without any characters but blanks. -/
def IsBlankText (s : List Char) : Prop := ∀ c ∈ s, isBlank c = true

/-- A text with some characters, none of them blank. -/
def IsSolid (s : List Char) : Prop := s ≠ [] ∧ ∀ c ∈ s, isBlank c = false

instance (s : List Char) : Decidable (IsBlankText s) :=
  decidable_of_iff (s.all isBlank = true) List.all_eq_true

instance (s : List Char) : Decidable (IsSolid s) :=
  decidable_of_iff (s.isEmpty = false ∧ (s.all fun c => !isBlank c) = true) (by simp [IsSolid])

/-- What stands between the blanks at the ends of a text. -/
structure IsCore (core s : List Char) : Prop where
  between : ∃ lead trail, IsBlankText lead ∧ IsBlankText trail ∧ s = lead ++ core ++ trail
  first : ∀ c ∈ core.head?, isBlank c = false
  last : ∀ c ∈ core.getLast?, isBlank c = false

/-- Whether a text begins with a mark, except that blanks may stand in front of it. -/
def OpensWith (mark s : List Char) : Prop :=
  ∃ lead rest, IsBlankText lead ∧ s = lead ++ mark ++ rest

theorem isBlankText_append {s t : List Char} :
    IsBlankText (s ++ t) ↔ IsBlankText s ∧ IsBlankText t := List.forall_mem_append

theorem IsSolid.mono {part piece : List Char} (solid : IsSolid part) (some_left : piece ≠ [])
    (inside : piece ⊆ part) : IsSolid piece :=
  ⟨some_left, fun c mem => solid.2 c (inside mem)⟩

theorem IsSolid.reverse {part : List Char} (solid : IsSolid part) : IsSolid part.reverse :=
  solid.mono (mt List.reverse_eq_nil_iff.mp solid.1) (List.reverse_subset.mpr (List.Subset.refl _))

/-- No solid text is part of a blank one. -/
theorem IsSolid.not_subset {part s : List Char} (solid : IsSolid part) (blank : IsBlankText s) :
    ¬ part ⊆ s := by
  intro inside
  obtain ⟨c, rest, rfl⟩ := List.exists_cons_of_ne_nil solid.1
  have both := blank c (inside List.mem_cons_self)
  rw [solid.2 c List.mem_cons_self] at both
  cases both

theorem IsSolid.dropWhile_append {part : List Char} (solid : IsSolid part) (s : List Char) :
    (part ++ s).dropWhile isBlank = part ++ s := by
  obtain ⟨c, rest, rfl⟩ := List.exists_cons_of_ne_nil solid.1
  exact List.dropWhile_cons_of_neg (by simp [solid.2 c List.mem_cons_self])

/-! ## What trimming leaves -/

theorem trim_eq (s : List Char) : trim s = (s.dropWhile isBlank).rdropWhile isBlank := rfl

theorem isCore_trim (s : List Char) : IsCore (trim s) s where
  between := by
    refine ⟨s.takeWhile isBlank, (s.dropWhile isBlank).rtakeWhile isBlank,
      fun c mem => List.mem_takeWhile_imp mem, fun c mem => List.mem_rtakeWhile_imp mem, ?_⟩
    rw [trim_eq, List.append_assoc, List.rdropWhile_append_rtakeWhile,
      List.takeWhile_append_dropWhile]
  first c head := by
    obtain ⟨rest, split⟩ := List.rdropWhile_prefix isBlank (s.dropWhile isBlank)
    have front : (s.dropWhile isBlank).head? = some c := by
      rw [← split, List.head?_append, ← trim_eq, Option.mem_def.mp head]
      rfl
    have stops := List.head?_dropWhile_not isBlank s
    rw [front] at stops
    exact stops
  last c last := by
    obtain ⟨nonempty, rfl⟩ := List.mem_getLast?_eq_getLast last
    exact Bool.eq_false_iff.mpr (List.rdropWhile_last_not isBlank _ nonempty)

theorem trim_lead {lead : List Char} (blank : IsBlankText lead) (s : List Char) :
    trim (lead ++ s) = trim s := by
  rw [trim_eq, trim_eq, List.dropWhile_append_of_pos blank]

theorem rdropWhile_trail {trail : List Char} (blank : IsBlankText trail) (s : List Char) :
    (s ++ trail).rdropWhile isBlank = s.rdropWhile isBlank := by
  rw [List.rdropWhile, List.reverse_append, List.dropWhile_append_of_pos, List.rdropWhile]
  intro c mem
  exact blank c (List.mem_reverse.mp mem)

theorem trim_trail {trail : List Char} (blank : IsBlankText trail) (s : List Char) :
    trim (s ++ trail) = trim s := by
  rw [trim_eq, trim_eq, List.dropWhile_append]
  split
  · next none_left =>
    rw [List.isEmpty_iff.mp none_left, List.dropWhile_eq_nil_iff.mpr blank]
  · exact rdropWhile_trail blank _

/-- A text has one core, and trimming finds it. -/
theorem isCore_iff {core s : List Char} : IsCore core s ↔ trim s = core := by
  constructor
  · rintro ⟨⟨lead, trail, leads, trails, rfl⟩, first, last⟩
    have front : core.dropWhile isBlank = core := by
      rw [List.dropWhile_eq_self_iff]
      intro nonempty
      have := first core[0] (List.head?_eq_getElem? ▸ List.getElem?_eq_getElem nonempty)
      simp [this]
    have back : core.rdropWhile isBlank = core := by
      rw [List.rdropWhile_eq_self_iff]
      intro nonempty
      have := last (core.getLast nonempty) (List.getLast?_eq_some_getLast nonempty)
      simp [this]
    rw [trim_trail trails, trim_lead leads, trim_eq, front, back]
  · rintro rfl
    exact isCore_trim s

theorem trim_eq_nil_iff {s : List Char} : trim s = [] ↔ IsBlankText s := by
  constructor
  · intro none_left
    obtain ⟨lead, trail, leads, trails, split⟩ := (isCore_trim s).between
    rw [split, none_left, List.append_nil]
    exact isBlankText_append.mpr ⟨leads, trails⟩
  · intro blank
    rw [trim_eq, List.dropWhile_eq_nil_iff.mpr blank, List.rdropWhile_nil]

/-! ## What is found in a trimmed text -/

theorem occursIn_iff {part s : List Char} : occursIn part s = true ↔ part <:+: s := by
  induction s with
  | nil => rw [occursIn, List.isEmpty_iff, List.infix_nil]
  | cons c rest ih =>
    rw [occursIn, Bool.or_eq_true, List.isPrefixOf_iff_prefix, ih, List.infix_cons_iff]

/-- Blanks in front of a text or behind it are no part of what is solid. -/
theorem infix_trim_iff {part : List Char} (solid : IsSolid part) (s : List Char) :
    part <:+: trim s ↔ part <:+: s := by
  obtain ⟨lead, trail, leads, trails, split⟩ := (isCore_trim s).between
  constructor
  · intro inside
    rw [split]
    exact inside.trans (List.infix_append lead (trim s) trail)
  · intro inside
    rw [split, List.infix_append_iff_ne_nil] at inside
    -- a solid part that reaches into blanks would have a piece there, which is solid as well
    rcases inside with front | in_trail | ⟨_, piece, -, some_left, rfl, -, in_trail⟩
    · rw [List.infix_append_iff_ne_nil] at front
      rcases front with in_lead | inside | ⟨piece, _, some_left, -, rfl, in_lead, -⟩
      · exact absurd in_lead.subset (solid.not_subset leads)
      · exact inside
      · have piece_solid := solid.mono some_left (List.subset_append_left ..)
        exact absurd in_lead.subset (piece_solid.not_subset leads)
    · exact absurd in_trail.subset (solid.not_subset trails)
    · have piece_solid := solid.mono some_left (List.subset_append_right ..)
      exact absurd in_trail.subset (piece_solid.not_subset trails)

/-- A trimmed text begins with a solid mark exactly if the text does, but for blanks. -/
theorem prefix_trim_iff {mark : List Char} (solid : IsSolid mark) (s : List Char) :
    mark <+: trim s ↔ OpensWith mark s := by
  constructor
  · rintro ⟨rest, split⟩
    obtain ⟨lead, trail, leads, -, whole⟩ := (isCore_trim s).between
    refine ⟨lead, rest ++ trail, leads, ?_⟩
    rw [whole, ← split]
    simp
  · rintro ⟨lead, rest, leads, rfl⟩
    rw [List.append_assoc, trim_lead leads, trim_eq, solid.dropWhile_append, List.rdropWhile,
      List.reverse_append, List.dropWhile_append]
    -- what follows the mark may be blank as a whole, and then the mark alone is left
    split
    · have kept := solid.reverse.dropWhile_append []
      rw [List.append_nil] at kept
      simp only [kept, List.reverse_reverse, List.prefix_rfl]
    · rw [List.reverse_append, List.reverse_reverse]
      exact List.prefix_append mark _

/-! ## The rows of a text -/

/-- The rows of a text: what stands between its line feeds. -/
def rows (s : List Char) : List (List Char) := s.splitOn '\n'

theorem rows_cons (c : Char) (s : List Char) :
    rows (c :: s) = if c = '\n' then [] :: rows s else (rows s).modifyHead (c :: ·) := by
  rw [rows, List.splitOn_cons_eq_if_modifyHead]
  simp only [beq_iff_eq]
  rfl

theorem exists_rows_eq_cons (s : List Char) : ∃ first more, rows s = first :: more :=
  List.exists_cons_of_ne_nil (List.splitOn_ne_nil '\n' s)

/-- A row is on one line. -/
theorem feed_not_mem_row {s row : List Char} (mem : row ∈ rows s) : '\n' ∉ row := by
  induction s generalizing row with
  | nil =>
    rw [rows, List.splitOn_nil, List.mem_singleton] at mem
    rw [mem]
    exact List.not_mem_nil
  | cons c rest ih =>
    obtain ⟨first, more, split⟩ := exists_rows_eq_cons rest
    rw [rows_cons, split] at mem
    rw [split] at ih
    by_cases feed : c = '\n'
    · rw [if_pos feed] at mem
      rcases List.mem_cons.mp mem with rfl | mem
      · exact List.not_mem_nil
      · exact ih mem
    · rw [if_neg feed, List.modifyHead_cons] at mem
      rcases List.mem_cons.mp mem with rfl | mem
      · have later := ih List.mem_cons_self
        exact List.not_mem_cons_of_ne_of_not_mem (Ne.symm feed) later
      · exact ih (List.mem_cons_of_mem _ mem)

/-- A text is blank exactly if its rows are. -/
theorem isBlankText_iff_rows {s : List Char} :
    IsBlankText s ↔ ∀ row ∈ rows s, IsBlankText row := by
  induction s with
  | nil => simp [rows, IsBlankText]
  | cons c rest ih =>
    obtain ⟨first, more, split⟩ := exists_rows_eq_cons rest
    have here : IsBlankText (c :: rest) ↔ isBlank c = true ∧ IsBlankText rest :=
      List.forall_mem_cons
    rw [here, ih, rows_cons, split]
    by_cases feed : c = '\n'
    · subst feed
      simp [IsBlankText, isBlank]
    · simp [feed, IsBlankText, and_assoc]

/-- A text that follows another one goes on in the last row of that. -/
theorem exists_rows_append (s : List Char) :
    ∃ front last, ∀ t, rows (s ++ t) = front ++ (rows t).modifyHead (last ++ ·) := by
  induction s with
  | nil =>
    refine ⟨[], [], fun t => ?_⟩
    obtain ⟨first, more, split⟩ := exists_rows_eq_cons t
    rw [List.nil_append, split]
    rfl
  | cons c rest ih =>
    obtain ⟨front, last, behind⟩ := ih
    by_cases feed : c = '\n'
    · refine ⟨[] :: front, last, fun t => ?_⟩
      rw [List.cons_append, rows_cons, if_pos feed, behind]
      rfl
    · cases front with
      | nil =>
        refine ⟨[], c :: last, fun t => ?_⟩
        obtain ⟨first, more, split⟩ := exists_rows_eq_cons t
        rw [List.cons_append, rows_cons, if_neg feed, behind, split]
        rfl
      | cons first front =>
        refine ⟨(c :: first) :: front, last, fun t => ?_⟩
        rw [List.cons_append, rows_cons, if_neg feed, behind]
        rfl

/-! ## Trimmed lines -/

/-- The texts that are not blank, without the blanks at their ends. -/
def cores (texts : List (List Char)) : List (List Char) :=
  (texts.map trim).filter fun core => !core.isEmpty

theorem cores_cons (s : List Char) (texts : List (List Char)) :
    cores (s :: texts) = if trim s = [] then cores texts else trim s :: cores texts := by
  by_cases none_left : trim s = [] <;> simp [cores, none_left]

theorem cores_append (texts more : List (List Char)) :
    cores (texts ++ more) = cores texts ++ cores more := by
  simp [cores]

theorem cores_eq_nil_iff {texts : List (List Char)} :
    cores texts = [] ↔ ∀ s ∈ texts, IsBlankText s := by
  simp [cores, List.filter_eq_nil_iff, trim_eq_nil_iff]

/-- A carriage return at the end of a line is blank, whether or not it belongs to the line end. -/
theorem trim_closeLine (line : List Char) : trim (closeLine line) = trim line.reverse := by
  have carriage_return : IsBlankText ['\r'] := by decide
  unfold closeLine
  split
  · next line => rw [List.reverse_cons, trim_trail carriage_return]
  · rfl

/-- What was read of a line before the rest of a text belongs to the first row. -/
theorem cores_linesFrom (line s : List Char) :
    cores (linesFrom line s) = cores ((rows s).modifyHead (line.reverse ++ ·)) := by
  fun_induction linesFrom line s with
  | case1 line none_read =>
    rw [List.isEmpty_iff.mp none_read]
    rfl
  | case2 line some_read =>
    change cores [line.reverse] = cores [line.reverse ++ []]
    rw [List.append_nil]
  | case3 line rest ih =>
    obtain ⟨first, more, split⟩ := exists_rows_eq_cons rest
    rw [split] at ih
    rw [rows_cons, if_pos rfl, List.modifyHead_cons, split, List.append_nil, cores_cons,
      trim_closeLine, ih, cores_cons]
    rfl
  | case4 line c rest other ih =>
    have not_feed : c ≠ '\n' := other
    obtain ⟨first, more, split⟩ := exists_rows_eq_cons rest
    rw [ih, rows_cons, if_neg not_feed, split]
    simp

/-- The trimmed lines of a text are its trimmed rows. -/
theorem cores_lines (s : List Char) : cores (lines s) = cores (rows s) := by
  obtain ⟨first, more, split⟩ := exists_rows_eq_cons s
  rw [lines, cores_linesFrom, split]
  rfl

/-- Blanks behind a text change none of its trimmed rows and add none. -/
theorem cores_rows_append {t : List Char} (blank : IsBlankText t) (s : List Char) :
    cores (rows (s ++ t)) = cores (rows s) := by
  obtain ⟨front, last, behind⟩ := exists_rows_append s
  obtain ⟨first, more, split⟩ := exists_rows_eq_cons t
  have all := isBlankText_iff_rows.mp blank
  rw [split] at all
  obtain ⟨here, later⟩ := List.forall_mem_cons.mp all
  have alone := behind []
  rw [List.append_nil] at alone
  -- the first row of the blanks ends the last row of the text, and the others are blank
  rw [behind, alone, split, cores_append, cores_append]
  congr 1
  change cores ((last ++ first) :: more) = cores [last ++ []]
  rw [cores_cons, cores_cons, trim_trail here, List.append_nil, cores_eq_nil_iff.mpr later]
  rfl

end BuildHook.Text
