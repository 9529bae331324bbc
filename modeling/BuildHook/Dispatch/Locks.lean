import BuildHook.Path

/-!
# Workspace locks

A lock stands before every workspace. The locks are numbered in the order in which they were made,
and a workspace keeps the lock that was made for it. Before each lock stands a line: the first
build in it has the lock, and the others wait for it in order.
-/

namespace BuildHook.Dispatch

/-- What a workspace is recognised by: two paths with equal components are one workspace. -/
abbrev Place := List Path.Component

/-- The locks made so far. Lock `n` belongs to the `n`-th place, and the `n`-th line stands before
it. -/
structure Locks where
  places : List Place
  lines : List (List Nat)
  length_eq : places.length = lines.length

namespace Locks

/-- No lock has been made. -/
def empty : Locks := ⟨[], [], rfl⟩

/-- The number of the lock of a place. -/
def number (locks : Locks) (place : Place) : Nat := locks.places.idxOf place

/-- The line before the lock of a place. -/
def line (locks : Locks) (place : Place) : List Nat :=
  (locks.lines[locks.number place]?).getD []

/-- Makes a lock for a place that has none. -/
def provide (locks : Locks) (place : Place) : Locks :=
  if place ∈ locks.places then locks
  else ⟨locks.places ++ [place], locks.lines ++ [[]], by simp [locks.length_eq]⟩

/-- Changes the line before the lock of a place. -/
def change (locks : Locks) (place : Place) (f : List Nat → List Nat) : Locks where
  places := locks.places
  lines := locks.lines.modify (locks.number place) f
  length_eq := by simp [locks.length_eq]

/-- A build at the end of a line, unless it stands in it. -/
def queued (build : Nat) (line : List Nat) : List Nat :=
  if line.contains build then line else line ++ [build]

/-- A build joins the line before a place. -/
def join (locks : Locks) (place : Place) (build : Nat) : Locks :=
  (locks.provide place).change place (queued build)

/-- A build leaves the line before a place. -/
def leave (locks : Locks) (place : Place) (build : Nat) : Locks :=
  locks.change place fun line => line.filter (· != build)

/-- Whether a build has the lock of a place. -/
def has (locks : Locks) (place : Place) (build : Nat) : Bool :=
  (locks.line place).head? == some build

theorem line_empty (place : Place) : empty.line place = [] := rfl

/-- A lock that was made stays the lock of its place. -/
theorem number_provide (locks : Locks) (place other : Place) (made : other ∈ locks.places) :
    (locks.provide place).number other = locks.number other := by
  unfold provide
  split
  · rfl
  · simp [number, List.idxOf_append, made]

/-- Two places never share a lock. -/
theorem eq_of_number_eq (locks : Locks) {place other : Place} (made : place ∈ locks.places)
    (same : locks.number place = locks.number other) : place = other := by
  have inside : locks.number place < locks.places.length := List.idxOf_lt_length_of_mem made
  have inside' : locks.number other < locks.places.length := by rwa [← same]
  calc
    place = locks.places[locks.number place] := (List.getElem_idxOf inside).symm
    _ = locks.places[locks.number other] := by simp only [same]
    _ = other := List.getElem_idxOf inside'

/-- No line stands where no lock was made. -/
theorem line_of_not_mem (locks : Locks) {place : Place} (missing : place ∉ locks.places) :
    locks.line place = [] := by
  have outside : locks.number place = locks.lines.length := by
    rw [number, List.idxOf_eq_length missing, locks.length_eq]
  simp [line, outside]

theorem mem_provide (locks : Locks) (place : Place) : place ∈ (locks.provide place).places := by
  unfold provide
  split
  · assumption
  · simp

/-- A new lock has no line yet, and the others keep theirs. -/
theorem line_provide (locks : Locks) (place other : Place) :
    (locks.provide place).line other = locks.line other := by
  by_cases made : other ∈ locks.places
  · have kept := locks.number_provide place other made
    have inside : locks.number other < locks.lines.length :=
      locks.length_eq ▸ List.idxOf_lt_length_of_mem made
    simp only [line, kept]
    unfold provide
    split
    · rfl
    · rw [List.getElem?_append_left inside]
  · rw [locks.line_of_not_mem made]
    by_cases fresh : other ∈ (locks.provide place).places
    · unfold provide at fresh ⊢
      split at fresh
      · exact absurd fresh made
      · next missing =>
        have place_eq : other = place := by simpa [made] using fresh
        subst place_eq
        simp [line, number, List.idxOf_append, missing, locks.length_eq]
    · exact line_of_not_mem _ fresh

theorem line_change_self (locks : Locks) {place : Place} (made : place ∈ locks.places)
    (f : List Nat → List Nat) : (locks.change place f).line place = f (locks.line place) := by
  have inside : locks.number place < locks.lines.length :=
    locks.length_eq ▸ List.idxOf_lt_length_of_mem made
  show ((locks.lines.modify (locks.number place) f)[locks.number place]?).getD [] = _
  simp [line, inside]

theorem line_change_other (locks : Locks) {place other : Place} (made : place ∈ locks.places)
    (different : other ≠ place) (f : List Nat → List Nat) :
    (locks.change place f).line other = locks.line other := by
  have apart : locks.number place ≠ locks.number other :=
    fun same => different (locks.eq_of_number_eq made same).symm
  show ((locks.lines.modify (locks.number place) f)[locks.number other]?).getD [] = _
  simp [line, apart]

@[simp] theorem line_join_self (locks : Locks) (place : Place) (build : Nat) :
    (locks.join place build).line place = queued build (locks.line place) := by
  rw [join, line_change_self _ (mem_provide ..), line_provide]

theorem line_join_other (locks : Locks) {place other : Place} (different : other ≠ place)
    (build : Nat) : (locks.join place build).line other = locks.line other := by
  rw [join, line_change_other _ (mem_provide ..) different, line_provide]

@[simp] theorem line_leave_self (locks : Locks) (place : Place) (build : Nat) :
    (locks.leave place build).line place = (locks.line place).filter (· != build) := by
  by_cases made : place ∈ locks.places
  · exact line_change_self _ made _
  · have missing : place ∉ (locks.leave place build).places := made
    rw [line_of_not_mem _ missing, line_of_not_mem _ made]
    rfl

theorem line_leave_other (locks : Locks) {place other : Place} (different : other ≠ place)
    (build : Nat) : (locks.leave place build).line other = locks.line other := by
  by_cases made : place ∈ locks.places
  · exact line_change_other _ made different _
  · have outside : locks.number place = locks.lines.length := by
      rw [number, List.idxOf_eq_length made, locks.length_eq]
    exact congrArg (fun lines => (lines[locks.number other]?).getD [])
      (List.modify_eq_self (Nat.le_of_eq outside.symm))

theorem has_iff (locks : Locks) (place : Place) (build : Nat) :
    locks.has place build = true ↔ (locks.line place).head? = some build := by
  simp [has]

end Locks

end BuildHook.Dispatch
