import BuildHook.Proofs.Path.Apart
import BuildHook.Proofs.Path.Steps

/-!
# Straight paths

A straight path leads up, if at all, before it leads down by names. Paths below one straight path
start where it starts, and rise as far.

## Main results

`beside_of_apart` says so of the workspaces of one cache, and that they are apart by their names.
-/

namespace BuildHook.Path

/-- Whether a path leads up, if at all, before it leads down. -/
def isStraight (path : String) : Bool :=
  ((components path).dropWhile fun c => !c.isNormal).all Component.isNormal

/-- The components of a path before its first name. -/
def lead (path : String) : List Component := (components path).takeWhile fun c => !c.isNormal

/-- How many levels a path leads up before its first name. -/
def rise (path : String) : Nat := (lead path).count .parent

/-- What stands in a path from its first name on. -/
def descent (path : String) : List (List Char) :=
  ((components path).dropWhile fun c => !c.isNormal).map Component.text

theorem map_normal_text {names : List Component} (normal : names.all Component.isNormal = true) :
    (names.map Component.text).map Component.normal = names := by
  induction names with
  | nil => rfl
  | cons c names ih =>
    rw [List.all_cons, Bool.and_eq_true] at normal
    rw [List.map_cons, List.map_cons, ih normal.2]
    cases c with
    | normal name => rfl
    | _ => cases normal.1

theorem components_of_isStraight {path : String} (straight : isStraight path = true) :
    components path = lead path ++ (descent path).map Component.normal := by
  rw [descent, map_normal_text straight, lead, List.takeWhile_append_dropWhile]

theorem not_isNormal_of_mem_lead (path : String) : ∀ c ∈ lead path, c.isNormal = false := by
  intro c member
  have rising := List.all_eq_true.mp List.all_takeWhile c member
  simpa using rising

/-- Where a straight path leads. -/
theorem denotes_of_isStraight {path : String} (straight : isStraight path = true) :
    Denotes path (isAbsolute path) (rise path) (descent path) :=
  denotes_of_components (components_of_isStraight straight) (not_isNormal_of_mem_lead path)

section Join

variable {base path : String} (normal : (components path).all Component.isNormal = true)

include normal

theorem takeWhile_components_normal :
    ((components path).takeWhile fun c => !c.isNormal) = [] := by
  cases hc : components path with
  | nil => rfl
  | cons c rest =>
    rw [hc, List.all_cons, Bool.and_eq_true] at normal
    simp [normal.1]

theorem dropWhile_components_normal :
    ((components path).dropWhile fun c => !c.isNormal) = components path := by
  have split := List.takeWhile_append_dropWhile (p := fun c => !Component.isNormal c)
    (l := components path)
  rwa [takeWhile_components_normal normal, List.nil_append] at split

/-- Names below a path do not change what stands before its first name. -/
theorem lead_join : lead (join base path) = lead base := by
  rw [lead, components_join normal, List.takeWhile_append, takeWhile_components_normal normal,
    List.append_nil]
  split
  · next whole => rw [lead, (List.takeWhile_prefix _).eq_of_length whole]
  · rfl

theorem rise_join : rise (join base path) = rise base := by
  rw [rise, lead_join normal, rise]

theorem descent_join : descent (join base path) = descent base ++ descent path := by
  rw [descent, components_join normal, List.dropWhile_append, descent, descent,
    dropWhile_components_normal normal]
  split
  · next empty => rw [List.isEmpty_iff.mp empty, List.map_nil, List.nil_append]
  · rw [List.map_append]

theorem isStraight_join (straight : isStraight base = true) :
    isStraight (join base path) = true := by
  rw [isStraight, components_join normal, List.dropWhile_append,
    dropWhile_components_normal normal]
  split
  · exact normal
  · rw [List.all_append, Bool.and_eq_true]
    exact ⟨straight, normal⟩

theorem isAbsolute_join : isAbsolute (join base path) = isAbsolute base := by
  rw [isAbsolute_eq, isAbsolute_eq, components_join normal, List.head?_append]
  cases hb : (components base).head? with
  | some c => rfl
  | none =>
    have relative := not_isAbsolute_of_normal normal
    rw [isAbsolute_eq] at relative
    rw [Option.none_or, relative]
    rfl

end Join

/-- A name below a path is one more piece. A separator at the end of the path is used. -/
theorem pieces_join {path name : String} (ordinary : IsName name) (some_char : path ≠ "") :
    ∃ front, pieces (join path name).toList = front ++ [name.toList]
      ∧ (pieces path.toList = front ∨ pieces path.toList = front ++ [[]]) := by
  have whole : '/' ∉ name.toList := ordinary.2
  have relative : isAbsolute name = false := by
    unfold isAbsolute
    cases hn : name.toList with
    | nil => rfl
    | cons c rest =>
      have hc : c ≠ '/' := fun same => whole (by rw [hn, same]; exact List.mem_cons_self)
      simp [List.isPrefixOf, hc.symm]
  rw [join, relative, if_neg Bool.false_ne_true]
  split
  · next ends =>
    obtain ⟨front, split⟩ : ['/'] <:+ path.toList := by simpa [some_char] using ends
    refine ⟨pieces front, ?_, .inr ?_⟩
    · rw [String.toList_append, ← split, List.append_assoc, List.singleton_append, pieces_append,
        pieces_of_not_mem whole]
    · rw [← split, pieces_append, pieces]
  · refine ⟨pieces path.toList, ?_, .inl rfl⟩
    rw [String.toList_append, String.toList_append, List.append_assoc]
    show pieces (path.toList ++ '/' :: name.toList) = _
    rw [pieces_append, pieces_of_not_mem whole]

/-- Only the empty path has no components. -/
theorem components_ne_nil {path : String} (some_char : path ≠ "") : components path ≠ [] := by
  unfold components
  cases hp : path.toList with
  | nil => exact absurd (String.toList_eq_nil_iff.mp hp) some_char
  | cons c rest =>
    by_cases hc : c = '/'
    · subst hc
      simp [componentsOf]
    · obtain ⟨piece, more, hs⟩ := List.exists_cons_of_ne_nil (pieces_ne_nil rest)
      have split : pieces (c :: rest) = (c :: piece) :: more := by rw [pieces, if_neg hc, hs]
      have found : (firstComponent? (c :: piece)).isSome = true := by
        unfold firstComponent? innerComponent?
        split
        · rfl
        · rw [if_neg (List.cons_ne_nil c piece)]
          split <;> rfl
      obtain ⟨first, hf⟩ := Option.isSome_iff_exists.mp found
      rw [componentsOf_of_ne hc _ _ _ split, hf]
      simp

/-- Two paths of which neither leads by its names to the other or below it. -/
structure Beside (first second : String) : Prop where
  outside : ¬ descent first <+: descent second
  above : ¬ descent second <+: descent first

end BuildHook.Path

namespace BuildHook.Workspace

open BuildHook.Path

variable {cacheRoot fullName workspace : String}

/-- A workspace is where the name of its repository leads below the cache root. -/
theorem dir?_eq (found : dir? cacheRoot fullName = some workspace) :
    (components fullName).all Component.isNormal = true
    ∧ workspace = join cacheRoot fullName := by
  unfold dir? at found
  split at found
  · next accepted =>
    exact ⟨(Bool.and_eq_true_iff.mp accepted).2, (Option.some.inj found).symm⟩
  · cases found

theorem isStraight_of_dir? (straight : isStraight cacheRoot = true)
    (found : dir? cacheRoot fullName = some workspace) : isStraight workspace = true := by
  obtain ⟨normal, rfl⟩ := dir?_eq found
  exact isStraight_join normal straight

/-- A workspace lies below the cache root. -/
theorem descent_ne_nil (found : dir? cacheRoot fullName = some workspace) :
    descent workspace ≠ [] := by
  obtain ⟨normal, rfl⟩ := dir?_eq found
  have some_char : fullName ≠ "" := by
    rintro rfl
    cases found
  have names : descent fullName ≠ [] := by
    rw [descent, dropWhile_components_normal normal]
    simpa using components_ne_nil some_char
  rw [descent_join normal]
  exact fun empty => names (List.append_eq_nil_iff.mp empty).2

/-- Workspaces of one cache that are apart have names that are apart. -/
theorem beside_of_apart {second other : String} (straight : isStraight cacheRoot = true)
    (hf : dir? cacheRoot fullName = some workspace) (hs : dir? cacheRoot second = some other)
    (apart : Apart workspace other) : Beside workspace other := by
  have components_first := components_of_isStraight (isStraight_of_dir? straight hf)
  have components_second := components_of_isStraight (isStraight_of_dir? straight hs)
  obtain ⟨normal, rfl⟩ := dir?_eq hf
  obtain ⟨normal', rfl⟩ := dir?_eq hs
  rw [lead_join normal] at components_first
  rw [lead_join normal'] at components_second
  refine ⟨fun inside => apart.1 ?_, fun inside => apart.2 ?_⟩
  · rw [components_first, components_second, List.prefix_append_right_inj]
    exact inside.map _
  · rw [components_first, components_second, List.prefix_append_right_inj]
    exact inside.map _

end BuildHook.Workspace
