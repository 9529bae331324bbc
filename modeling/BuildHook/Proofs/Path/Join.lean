import BuildHook.Workspace

/-!
# Components of joined paths

The components of a path below another are those of both, one after the other. So two names of a
repository denote one workspace exactly when they have equal components.
-/

namespace BuildHook.Path

theorem pieces_ne_nil (path : List Char) : pieces path ≠ [] := by
  cases path with
  | nil => simp [pieces]
  | cons c rest =>
    unfold pieces
    split
    · simp
    · split <;> simp

/-- Without a separator a path is one piece. -/
theorem pieces_of_not_mem {path : List Char} (whole : '/' ∉ path) : pieces path = [path] := by
  induction path with
  | nil => rfl
  | cons c rest ih =>
    have ordinary : c ≠ '/' := fun same => whole (same ▸ List.mem_cons_self)
    have tail : pieces rest = [rest] := ih fun inside => whole (List.mem_cons_of_mem c inside)
    rw [pieces, if_neg ordinary, tail]

theorem pieces_append (front back : List Char) :
    pieces (front ++ '/' :: back) = pieces front ++ pieces back := by
  induction front with
  | nil => simp [pieces]
  | cons c rest ih =>
    rw [List.cons_append, pieces, pieces, ih]
    split
    · rfl
    · cases hp : pieces rest with
      | nil => exact absurd hp (pieces_ne_nil rest)
      | cons piece more => rfl

theorem componentsOf_of_ne {c : Char} (relative : c ≠ '/') (rest first : List Char)
    (more : List (List Char)) (hp : pieces (c :: rest) = first :: more) :
    componentsOf (c :: rest)
      = (firstComponent? first).toList ++ more.filterMap innerComponent? := by
  unfold componentsOf
  split
  · next same => exact absurd (List.cons.inj same).1 relative
  · rw [hp]

/-- Whatever stands behind a separator adds its components. -/
theorem componentsOf_append (front back : List Char) :
    componentsOf (front ++ '/' :: back)
      = componentsOf (front ++ ['/']) ++ (pieces back).filterMap innerComponent? := by
  cases front with
  | nil => simp [componentsOf, pieces, innerComponent?]
  | cons c rest =>
    by_cases hc : c = '/'
    · subst hc
      simp [componentsOf, pieces_append, pieces, innerComponent?]
    · obtain ⟨first, more, hp⟩ := List.exists_cons_of_ne_nil (pieces_ne_nil (c :: rest))
      have whole (back : List Char) : pieces (c :: (rest ++ '/' :: back))
          = first :: (more ++ pieces back) := by
        rw [← List.cons_append, pieces_append, hp, List.cons_append]
      rw [List.cons_append, List.cons_append, componentsOf_of_ne hc _ _ _ (whole back),
        componentsOf_of_ne hc _ _ _ (whole [])]
      simp [pieces, innerComponent?]

/-- A separator at the end of a path adds nothing. -/
theorem componentsOf_separator {path : List Char} (some_char : path ≠ []) :
    componentsOf (path ++ ['/']) = componentsOf path := by
  cases path with
  | nil => exact absurd rfl some_char
  | cons c rest =>
    by_cases hc : c = '/'
    · subst hc
      simp [componentsOf, pieces_append, pieces, innerComponent?]
    · obtain ⟨first, more, hp⟩ := List.exists_cons_of_ne_nil (pieces_ne_nil (c :: rest))
      have whole : pieces (c :: (rest ++ ['/'])) = first :: (more ++ [[]]) := by
        rw [← List.cons_append, pieces_append, hp]
        rfl
      rw [List.cons_append, componentsOf_of_ne hc _ _ _ whole, componentsOf_of_ne hc _ _ _ hp]
      simp [innerComponent?]

/-- In a path of ordinary names the first piece is like the others. -/
theorem componentsOf_normal {path : List Char}
    (normal : (componentsOf path).all Component.isNormal = true) :
    componentsOf path = (pieces path).filterMap innerComponent? := by
  cases path with
  | nil => rfl
  | cons c rest =>
    by_cases hc : c = '/'
    · subst hc
      simp [componentsOf, Component.isNormal] at normal
    · obtain ⟨first, more, hp⟩ := List.exists_cons_of_ne_nil (pieces_ne_nil (c :: rest))
      rw [componentsOf_of_ne hc _ _ _ hp] at normal ⊢
      rw [hp]
      by_cases hd : first = ['.']
      · simp [firstComponent?, hd, Component.isNormal] at normal
      · simp only [firstComponent?, hd, if_false, List.filterMap_cons]
        cases innerComponent? first <;> rfl

theorem not_isAbsolute_of_normal {path : String}
    (normal : (components path).all Component.isNormal = true) : isAbsolute path = false := by
  unfold components isAbsolute at *
  cases hp : path.toList with
  | nil => rfl
  | cons c rest =>
    by_cases hc : c = '/'
    · subst hc
      simp [hp, componentsOf, Component.isNormal] at normal
    · simp [List.isPrefixOf, Ne.symm hc]

/-- The components of a path of ordinary names below another path. -/
theorem components_join {base path : String}
    (normal : (components path).all Component.isNormal = true) :
    components (join base path) = components base ++ components path := by
  have inner : components path = (pieces path.toList).filterMap innerComponent? :=
    componentsOf_normal normal
  unfold join
  rw [not_isAbsolute_of_normal normal, inner]
  simp only [Bool.false_eq_true, if_false]
  by_cases he : base = ""
  · subst he
    rw [if_pos (by simp), String.empty_append, inner]
    rfl
  · have some_char : base.toList ≠ [] := by simpa using he
    split
    · next hs =>
      obtain ⟨front, hf⟩ : ['/'] <:+ base.toList := by simpa [he] using hs
      rw [components, components, String.toList_append, ← hf, List.append_assoc]
      exact componentsOf_append front path.toList
    · rw [components, components, String.toList_append, String.toList_append, List.append_assoc]
      exact (componentsOf_append base.toList path.toList).trans
        (by rw [componentsOf_separator some_char])

end BuildHook.Path

namespace BuildHook.Workspace

open BuildHook.Path (components)

/-- Where the workspace of a repository is. -/
theorem components_of_dir? {cacheRoot fullName workspace : String}
    (found : dir? cacheRoot fullName = some workspace) :
    components workspace = components cacheRoot ++ components fullName := by
  unfold dir? at found
  by_cases accepted : accepts fullName = true
  · rw [if_pos accepted] at found
    cases found
    exact Path.components_join (Bool.and_eq_true_iff.mp accepted).2
  · rw [if_neg accepted] at found
    cases found

/-- Two names denote one workspace exactly when they have equal components. -/
theorem dir?_same_iff {cacheRoot first second workspace other : String}
    (hf : dir? cacheRoot first = some workspace) (hs : dir? cacheRoot second = some other) :
    components workspace = components other ↔ components first = components second := by
  rw [components_of_dir? hf, components_of_dir? hs, List.append_cancel_left_eq]

/-- Four spellings of one name. -/
example : ∀ name ∈ ["a//b", "a/./b", "a/b/"], components name = components "a/b" := by decide

end BuildHook.Workspace
