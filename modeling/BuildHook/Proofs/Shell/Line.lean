import Mathlib.Tactic.SplitIfs

/-!
# Command lines

A shell reads a line character by character. Blanks end a word outside quotes; everything between
single quotes is text, and so is most of what stands between double quotes or behind a backslash.

## Main results

`grows_read` and `Within.read` say what one character does to the parts of a line and to the length
of a word; `grows` and `Within.foldl` what a whole text does. `foldl_single` and `foldl_double` are
texts that stay between the quotes.
-/

namespace BuildHook.Shell

/-- How the next character of a line is read: outside quotes, behind a backslash, in a comment,
between quotes, or behind a backslash between double quotes. -/
inductive Mode where
  | plain
  | escaped
  | comment
  | single
  | double
  | doubleEscaped
  deriving DecidableEq

/-- A part of a line: a word, or a character that is no text but has a meaning of its own. What a
word means at its place, as a reserved word or an assignment, is not told apart here. -/
inductive Part where
  | word (text : String)
  | sign (c : Char)
  deriving DecidableEq

/-- What has been read of a line: its finished parts, the word that has begun, and how to go on. -/
structure Scan where
  parts : List Part
  word : Option (List Char)
  mode : Mode
  deriving DecidableEq

/-- The signs outside quotes: operators, and what begins a substitution or a pattern. -/
def signs : List Char :=
  ['|', '&', ';', '<', '>', '(', ')', '\n', '$', '`', '*', '?', '[']

/-- The characters that are not always text outside quotes. -/
def specials : List Char := '\'' :: '"' :: '\\' :: ' ' :: '\t' :: '#' :: '~' :: signs

/-- The characters that keep their meaning between double quotes, unless they stand behind a
backslash. -/
def doubleSigns : List Char := ['$', '`']

namespace Scan

/-- The scan of a line of which nothing has been read. -/
def start : Scan := ⟨[], none, .plain⟩

/-- Adds a character to the word, which begins with it if none has begun. -/
def push (s : Scan) (c : Char) : Scan := { s with word := some (s.word.getD [] ++ [c]) }

/-- Begins a word, if none has begun, at an opening quote. -/
def enter (s : Scan) (mode : Mode) : Scan := { s with word := some (s.word.getD []), mode }

/-- Ends the word that has begun. -/
def close (s : Scan) : Scan :=
  { s with
    parts := s.parts ++ (s.word.map fun text => Part.word (.ofList text)).toList
    word := none }

/-- Ends the word at a sign. -/
def mark (s : Scan) (c : Char) : Scan := { s.close with parts := s.close.parts ++ [.sign c] }

/-- Reads a character outside quotes. A hash or a tilde has a meaning only where a word begins. -/
def readPlain (s : Scan) (c : Char) : Scan :=
  if c = '\'' then s.enter .single
  else if c = '"' then s.enter .double
  else if c = '\\' then { s with mode := .escaped }
  else if c = ' ' ∨ c = '\t' then s.close
  else if c = '#' ∧ s.word = none then { s with mode := .comment }
  else if c ∈ signs ∨ (c = '~' ∧ s.word = none) then s.mark c
  else s.push c

/-- Reads a character between double quotes. -/
def readDouble (s : Scan) (c : Char) : Scan :=
  if c = '"' then { s with mode := .plain }
  else if c = '\\' then { s with mode := .doubleEscaped }
  else if c ∈ doubleSigns then (s.mark c).enter .double
  else s.push c

/-- Reads a character behind a backslash between double quotes. The backslash is text unless the
character would have a meaning without it. -/
def readDoubleEscaped (s : Scan) (c : Char) : Scan :=
  if c = '\n' then { s with mode := .double }
  else if c ∈ '"' :: '\\' :: doubleSigns then { s.push c with mode := .double }
  else { (s.push '\\').push c with mode := .double }

/-- Reads a character. -/
def read (s : Scan) (c : Char) : Scan :=
  match s.mode with
  | .plain => s.readPlain c
  | .escaped => if c = '\n' then { s with mode := .plain } else { s.push c with mode := .plain }
  | .comment => if c = '\n' then { s.mark c with mode := .plain } else s
  | .single => if c = '\'' then { s with mode := .plain } else s.push c
  | .double => s.readDouble c
  | .doubleEscaped => s.readDoubleEscaped c

/-- The parts of a line at its end, where no quote may be open and nothing be missing behind a
backslash. -/
def finish (s : Scan) : Option (List Part) :=
  if s.mode = .plain ∨ s.mode = .comment then some s.close.parts else none

end Scan

/-- The parts of a line. -/
def parts (line : String) : Option (List Part) := (line.toList.foldl Scan.read Scan.start).finish

namespace Scan

variable {s : Scan} {front : List Part} {word : List Char} {mode : Mode} {n : Nat}

/-! ## Parts are only added -/

theorem grows_close (s : Scan) : s.parts <+: s.close.parts := List.prefix_append _ _

theorem grows_mark (s : Scan) (c : Char) : s.parts <+: (s.mark c).parts :=
  (grows_close s).trans (List.prefix_append _ _)

theorem grows_readPlain (s : Scan) (c : Char) : s.parts <+: (s.readPlain c).parts := by
  unfold readPlain
  split_ifs
  · exact List.prefix_refl _
  · exact List.prefix_refl _
  · exact List.prefix_refl _
  · exact grows_close s
  · exact List.prefix_refl _
  · exact grows_mark s c
  · exact List.prefix_refl _

theorem grows_readDouble (s : Scan) (c : Char) : s.parts <+: (s.readDouble c).parts := by
  unfold readDouble
  split_ifs
  · exact List.prefix_refl _
  · exact List.prefix_refl _
  · exact grows_mark s c
  · exact List.prefix_refl _

theorem grows_readDoubleEscaped (s : Scan) (c : Char) :
    s.parts <+: (s.readDoubleEscaped c).parts := by
  unfold readDoubleEscaped
  split_ifs <;> exact List.prefix_refl _

theorem grows_read (s : Scan) (c : Char) : s.parts <+: (s.read c).parts := by
  obtain ⟨parts, word, mode⟩ := s
  cases mode with
  | plain => exact grows_readPlain _ c
  | escaped =>
    simp only [read]
    split_ifs <;> exact List.prefix_refl _
  | comment =>
    simp only [read]
    split_ifs
    · exact grows_mark ⟨parts, word, .comment⟩ c
    · exact List.prefix_refl _
  | single =>
    simp only [read]
    split_ifs <;> exact List.prefix_refl _
  | double => exact grows_readDouble _ c
  | doubleEscaped => exact grows_readDoubleEscaped _ c

theorem grows (s : Scan) (text : List Char) : s.parts <+: (text.foldl read s).parts := by
  induction text generalizing s with
  | nil => exact List.prefix_refl _
  | cons c rest ih => exact (grows_read s c).trans (ih (s.read c))

/-! ## Text between quotes -/

/-- Between single quotes everything is text, up to the next one. -/
theorem foldl_single (text : List Char) (unquoted : '\'' ∉ text) :
    text.foldl read ⟨front, some word, .single⟩ = ⟨front, some (word ++ text), .single⟩ := by
  induction text generalizing word with
  | nil => rw [List.append_nil]; rfl
  | cons c rest ih =>
    rw [List.mem_cons, not_or] at unquoted
    obtain ⟨other, later⟩ := unquoted
    have step : read ⟨front, some word, .single⟩ c = ⟨front, some (word ++ [c]), .single⟩ :=
      if_neg (Ne.symm other)
    rw [List.foldl_cons, step, ih later, List.append_assoc]
    rfl

/-- Between double quotes all characters without a meaning there are text. -/
theorem foldl_double (text : List Char)
    (ordinary : ∀ c ∈ text, c ∉ '"' :: '\\' :: doubleSigns) :
    text.foldl read ⟨front, some word, .double⟩ = ⟨front, some (word ++ text), .double⟩ := by
  induction text generalizing word with
  | nil => rw [List.append_nil]; rfl
  | cons c rest ih =>
    obtain ⟨here, later⟩ := List.forall_mem_cons.mp ordinary
    rw [List.mem_cons, List.mem_cons, not_or, not_or] at here
    obtain ⟨quote, backslash, sign⟩ := here
    have step : read ⟨front, some word, .double⟩ c = ⟨front, some (word ++ [c]), .double⟩ := by
      simp only [read, readDouble, if_neg quote, if_neg backslash, if_neg sign]
      rfl
    rw [List.foldl_cons, step, ih later, List.append_assoc]
    rfl

/-! ## Words outside quotes -/

theorem read_ordinary (begun : Option (List Char)) {c : Char} (ordinary : c ∉ specials) :
    read ⟨front, begun, .plain⟩ c = ⟨front, some (begun.getD [] ++ [c]), .plain⟩ := by
  simp only [specials, List.mem_cons, not_or] at ordinary
  obtain ⟨single, double, backslash, blank, tab, hash, tilde, sign⟩ := ordinary
  simp only [read, readPlain, if_neg single, if_neg double, if_neg backslash]
  rw [if_neg (not_or.mpr ⟨blank, tab⟩), if_neg fun both => hash both.1,
    if_neg (not_or.mpr ⟨by simpa [signs] using sign, fun both => tilde both.1⟩)]
  rfl

/-- Ordinary characters are text wherever they stand. -/
theorem foldl_ordinary (text : List Char) (ordinary : ∀ c ∈ text, c ∉ specials) :
    text.foldl read ⟨front, some word, .plain⟩ = ⟨front, some (word ++ text), .plain⟩ := by
  induction text generalizing word with
  | nil => rw [List.append_nil]; rfl
  | cons c rest ih =>
    obtain ⟨here, later⟩ := List.forall_mem_cons.mp ordinary
    rw [List.foldl_cons, read_ordinary _ here, Option.getD_some, ih later, List.append_assoc]
    rfl

/-- Words of ordinary characters behind blanks are read as these words. -/
theorem finish_words (texts : List String)
    (ordinary : ∀ text ∈ texts, text ≠ "" ∧ ∀ c ∈ text.toList, c ∉ specials) :
    ((texts.flatMap fun text => ' ' :: text.toList).foldl read ⟨front, some word, .plain⟩).finish
      = some (front ++ .word (.ofList word) :: texts.map Part.word) := by
  induction texts generalizing front word with
  | nil => rfl
  | cons text rest ih =>
    obtain ⟨⟨some_char, here⟩, later⟩ := List.forall_mem_cons.mp ordinary
    have blank : read ⟨front, some word, .plain⟩ ' '
        = ⟨front ++ [.word (.ofList word)], none, .plain⟩ := rfl
    obtain ⟨c, more, chars⟩ : ∃ c more, text.toList = c :: more :=
      List.exists_cons_of_ne_nil (by simpa using some_char)
    rw [chars] at here
    obtain ⟨first, others⟩ := List.forall_mem_cons.mp here
    rw [List.flatMap_cons, List.foldl_append, List.foldl_cons, blank, chars, List.foldl_cons,
      read_ordinary none first, foldl_ordinary more others, ih later]
    have whole : String.ofList ([c] ++ more) = text := by
      rw [List.singleton_append, ← chars, String.ofList_toList]
    rw [Option.getD_none, List.nil_append, whole, List.append_assoc]
    rfl

end Scan

/-! ## Lengths of words -/

/-- How many of the characters that were read are in no word while a line is read so. -/
def Mode.held : Mode → Nat
  | .plain => 0
  | .escaped => 1
  | .comment => 0
  | .single => 1
  | .double => 1
  | .doubleEscaped => 2

/-- Whether what stands behind some parts is a word of at most as many characters, or begins with
one. -/
inductive Within (front : List Part) (n : Nat) : Scan → Prop
  | begun {word : List Char} {mode : Mode} (outside : mode ≠ .comment)
      (short : word.length + mode.held ≤ n) : Within front n ⟨front, some word, mode⟩
  | ended {text : String} {s : Scan} (at_front : front ++ [.word text] <+: s.parts)
      (short : text.toList.length ≤ n) : Within front n s

namespace Within

open Scan

variable {s : Scan} {front : List Part} {word : List Char} {mode : Mode} {n : Nat}

/-- A word that has ended stays where it is. -/
theorem stays (at_front : front ++ [.word (.ofList word)] <+: s.parts) (short : word.length ≤ n) :
    Within front n s :=
  ended at_front (by rwa [String.toList_ofList])

/-- A word that goes on has one character more. -/
theorem push (mode : Mode) (outside : mode ≠ .comment) (short : word.length + mode.held < n)
    (c : Char) : Within front n ⟨front, some (word ++ [c]), mode⟩ := by
  apply begun outside
  rw [List.length_append, List.length_singleton]
  omega

theorem readPlain (short : word.length ≤ n) (c : Char) :
    Within front (n + 1) (Scan.readPlain ⟨front, some word, .plain⟩ c) := by
  unfold Scan.readPlain
  split_ifs with single double backslash blank hash sign
  · exact begun (by decide) (Nat.succ_le_succ short)
  · exact begun (by decide) (Nat.succ_le_succ short)
  · exact begun (by decide) (Nat.succ_le_succ short)
  · exact stays (List.prefix_refl _) (Nat.le_succ_of_le short)
  · cases hash.2
  · exact stays (List.prefix_append _ _) (Nat.le_succ_of_le short)
  · exact push .plain (by decide) (Nat.lt_succ_of_le short) c

theorem readDouble (short : word.length + 1 ≤ n) (c : Char) :
    Within front (n + 1) (Scan.readDouble ⟨front, some word, .double⟩ c) := by
  unfold Scan.readDouble
  split_ifs with quote backslash sign
  · exact begun (by decide) (show word.length ≤ n + 1 by omega)
  · exact begun (by decide) (Nat.succ_le_succ short)
  · exact stays (List.prefix_append _ _) (show word.length ≤ n + 1 by omega)
  · exact push .double (by decide) (Nat.lt_succ_of_le short) c

theorem readDoubleEscaped (short : word.length + 2 ≤ n) (c : Char) :
    Within front (n + 1) (Scan.readDoubleEscaped ⟨front, some word, .doubleEscaped⟩ c) := by
  have longer : (word ++ ['\\']).length + 1 < n + 1 := by
    rw [List.length_append, List.length_singleton]
    omega
  unfold Scan.readDoubleEscaped
  split_ifs with feed special
  · exact begun (by decide) (show word.length + 1 ≤ n + 1 by omega)
  · exact push .double (by decide) (show word.length + 1 < n + 1 by omega) c
  · exact push .double (by decide) longer c

/-- One more character makes the word behind the parts longer by one at most. -/
theorem read (within : Within front n s) (c : Char) : Within front (n + 1) (s.read c) := by
  cases within with
  | ended at_front short =>
    exact ended (at_front.trans (grows_read s c)) (Nat.le_succ_of_le short)
  | @begun word mode outside short =>
    cases mode with
    | plain => exact readPlain short c
    | escaped =>
      change word.length + 1 ≤ n at short
      simp only [Scan.read]
      split_ifs with feed
      · exact begun (by decide) (show word.length ≤ n + 1 by omega)
      · exact push .plain (by decide) (show word.length < n + 1 by omega) c
    | comment => exact absurd rfl outside
    | single =>
      change word.length + 1 ≤ n at short
      simp only [Scan.read]
      split_ifs with quote
      · exact begun (by decide) (show word.length ≤ n + 1 by omega)
      · exact push .single (by decide) (show word.length + 1 < n + 1 by omega) c
    | double => exact readDouble short c
    | doubleEscaped => exact readDoubleEscaped short c

/-- A text makes the word behind the parts longer by its length at most. -/
theorem foldl (within : Within front n s) (text : List Char) :
    Within front (n + text.length) (text.foldl Scan.read s) := by
  induction text generalizing n s with
  | nil => exact within
  | cons c rest ih =>
    rw [List.length_cons, Nat.add_comm rest.length 1, ← Nat.add_assoc]
    exact ih (within.read c)

end Within

/-- The parts at the end of a line are those of its scan, with the word that has begun. -/
theorem Scan.parts_of_finish {s : Scan} {all : List Part} (finished : s.finish = some all) :
    s.parts <+: all := by
  unfold Scan.finish at finished
  split_ifs at finished
  rw [← Option.some.inj finished]
  exact Scan.grows_close s

/-- A word that has ended is still there at the end of the line, so no other one is. -/
theorem Scan.finish_ne {s : Scan} {front more : List Part} {text whole : String}
    (at_front : front ++ [.word text] <+: s.parts) (other : text ≠ whole) (rest : List Char) :
    (rest.foldl Scan.read s).finish ≠ some (front ++ .word whole :: more) := by
  intro finished
  have kept : front ++ [.word text] <+: front ++ .word whole :: more :=
    at_front.trans ((Scan.grows s rest).trans (Scan.parts_of_finish finished))
  have first := (List.cons_prefix_cons.mp ((List.prefix_append_right_inj front).mp kept)).1
  exact other (Part.word.inj first)

end BuildHook.Shell
