import BuildHook.Proofs.Path.Join

/-!
# Workspaces apart

Two paths are apart if neither is the other or lies below it. Workspaces are apart exactly if the
names of their repositories are; names that differ only in how they are spelled share a workspace,
and a name of one piece has the workspaces of longer names below its own.

## Main results

`dir?_apart_iff` compares workspaces with names, and finds all workspaces of repositories with an
owner apart; `dir?_not_always_apart` shows that different names are not enough.
-/

namespace BuildHook.Path

/-- Whether neither of two paths is the other or lies below it. -/
def Apart (first second : String) : Prop :=
  ¬ components first <+: components second ∧ ¬ components second <+: components first

theorem Apart.symm {first second : String} (apart : Apart first second) : Apart second first :=
  ⟨apart.2, apart.1⟩

/-- Whether a text is one ordinary name. -/
def IsName (name : String) : Prop :=
  innerComponent? name.toList = some (.normal name.toList) ∧ '/' ∉ name.toList

instance (name : String) : Decidable (IsName name) := inferInstanceAs (Decidable (_ ∧ _))

theorem IsName.ne_nil {name : String} (ordinary : IsName name) : name.toList ≠ [] := by
  intro empty
  have found := ordinary.1
  rw [empty] at found
  cases found

/-- A name in a directory of one name is a path of two components. -/
theorem components_pair {owner repository : String} (ho : IsName owner) (hr : IsName repository) :
    components (owner ++ "/" ++ repository)
      = [.normal owner.toList, .normal repository.toList] := by
  have pair : pieces (owner ++ "/" ++ repository).toList
      = [owner.toList, repository.toList] := by
    have text : (owner ++ "/" ++ repository).toList
        = owner.toList ++ '/' :: repository.toList := by
      simp [String.toList_append]
    rw [text, pieces_append, pieces_of_not_mem ho.2, pieces_of_not_mem hr.2]
    rfl
  have not_current : owner.toList ≠ ['.'] := by
    intro current
    have found := ho.1
    rw [current] at found
    cases found
  obtain ⟨c, rest, hc⟩ := List.exists_cons_of_ne_nil ho.ne_nil
  have relative : c ≠ '/' := by
    intro same
    exact ho.2 (by rw [hc, same]; exact List.mem_cons_self)
  have text : (owner ++ "/" ++ repository).toList = c :: (rest ++ '/' :: repository.toList) := by
    simp [String.toList_append, hc]
  rw [text] at pair
  rw [components, text, componentsOf_of_ne relative _ _ _ pair, firstComponent?,
    if_neg not_current, ho.1]
  simp [hr.1]

end BuildHook.Path

namespace BuildHook.Workspace

open BuildHook.Path (Apart IsName components)

/-- Whether a name is that of a repository with an owner. -/
def IsOwned (fullName : String) : Prop :=
  ∃ owner repository, IsName owner ∧ IsName repository ∧ fullName = owner ++ "/" ++ repository

/-- One workspace is another or lies around it exactly if the names stand so. -/
theorem dir?_prefix_iff {cacheRoot first second workspace other : String}
    (hf : dir? cacheRoot first = some workspace) (hs : dir? cacheRoot second = some other) :
    components workspace <+: components other ↔ components first <+: components second := by
  rw [components_of_dir? hf, components_of_dir? hs, List.prefix_append_right_inj]

/-- The name of a repository with an owner is accepted. -/
theorem IsOwned.dir? {fullName : String} (owned : IsOwned fullName) (cacheRoot : String) :
    ∃ workspace, dir? cacheRoot fullName = some workspace := by
  obtain ⟨owner, repository, ho, hr, rfl⟩ := owned
  have accepted : accepts (owner ++ "/" ++ repository) = true := by
    rw [accepts, Path.components_pair ho hr]
    simp [Path.Component.isNormal]
  exact ⟨_, if_pos accepted⟩

/-- Repositories with owners have as many components as each other, so that their names are apart
unless they are equal. -/
theorem IsOwned.apart {first second : String} (hf : IsOwned first) (hs : IsOwned second)
    (different : first ≠ second) : Apart first second := by
  obtain ⟨owner, repository, ho, hr, rfl⟩ := hf
  obtain ⟨owner', repository', ho', hr', rfl⟩ := hs
  have unequal : components (owner ++ "/" ++ repository)
      ≠ components (owner' ++ "/" ++ repository') := by
    rw [Path.components_pair ho hr, Path.components_pair ho' hr']
    intro same
    simp only [List.cons.injEq, Path.Component.normal.injEq, String.toList_inj, and_true] at same
    exact different (by rw [same.1, same.2])
  have length : (components (owner ++ "/" ++ repository)).length
      = (components (owner' ++ "/" ++ repository')).length := by
    rw [Path.components_pair ho hr, Path.components_pair ho' hr']
    rfl
  exact ⟨fun inside => unequal (inside.eq_of_length length),
    fun inside => unequal (inside.eq_of_length length.symm).symm⟩

/-- Two workspaces are equal, one lies below the other, or they are apart, exactly as the names of
their repositories are in the same cache; and the workspaces of two repositories with owners are
apart. -/
theorem dir?_apart_iff (cacheRoot : String) :
    (∀ first second workspace other : String,
      dir? cacheRoot first = some workspace → dir? cacheRoot second = some other →
      (components workspace = components other ↔ components first = components second)
      ∧ (components workspace <+: components other ↔ components first <+: components second)
      ∧ (Apart workspace other ↔ Apart first second))
    ∧ ∀ first second : String, IsOwned first → IsOwned second → first ≠ second →
      ∃ workspace other, dir? cacheRoot first = some workspace
        ∧ dir? cacheRoot second = some other ∧ Apart workspace other := by
  have apart_iff {first second workspace other : String}
      (hf : dir? cacheRoot first = some workspace) (hs : dir? cacheRoot second = some other) :
      Apart workspace other ↔ Apart first second :=
    and_congr (not_congr (dir?_prefix_iff hf hs)) (not_congr (dir?_prefix_iff hs hf))
  constructor
  · intro first second workspace other hf hs
    exact ⟨dir?_same_iff hf hs, dir?_prefix_iff hf hs, apart_iff hf hs⟩
  · intro first second hf hs different
    obtain ⟨workspace, found⟩ := hf.dir? cacheRoot
    obtain ⟨other, found'⟩ := hs.dir? cacheRoot
    exact ⟨workspace, other, found, found', (apart_iff found found').mpr (hf.apart hs different)⟩

/-- Two repositories of one owner, and two spellings of one name. -/
theorem dir?_apart_iff_one_owner :
    IsOwned "acme/widgets" ∧ IsOwned "acme/gadgets"
    ∧ (∃ workspace other, dir? "_cache" "acme/widgets" = some workspace
      ∧ dir? "_cache" "acme/gadgets" = some other ∧ Apart workspace other)
    ∧ dir? "_cache" "a/b" = some "_cache/a/b" ∧ dir? "_cache" "a/./b" = some "_cache/a/./b"
    ∧ (components "_cache/a/b" = components "_cache/a/./b"
      ↔ components "a/b" = components "a/./b") := by
  have first : IsOwned "acme/widgets" := ⟨"acme", "widgets", by decide, by decide, rfl⟩
  have second : IsOwned "acme/gadgets" := ⟨"acme", "gadgets", by decide, by decide, rfl⟩
  refine ⟨first, second, ?_, rfl, rfl, ?_⟩
  · exact (dir?_apart_iff "_cache").2 _ _ first second (by decide)
  · exact ((dir?_apart_iff "_cache").1 "a/b" "a/./b" _ _ rfl rfl).1

/-- Different names do not always have workspaces apart: one name can be spelled in two ways, and a
name can lead to a directory above that of another. -/
theorem dir?_not_always_apart :
    (dir? "_cache" "a/b" = some "_cache/a/b" ∧ dir? "_cache" "a//b" = some "_cache/a//b"
      ∧ components "_cache/a/b" = components "_cache/a//b")
    ∧ (dir? "_cache" "a" = some "_cache/a" ∧ components "_cache/a" <+: components "_cache/a/b")
    ∧ ¬ ∀ cacheRoot first second workspace other : String, first ≠ second →
      dir? cacheRoot first = some workspace → dir? cacheRoot second = some other →
      components workspace ≠ components other ∧ Apart workspace other := by
  have spelled : components "_cache/a/b" = components "_cache/a//b" := by decide
  refine ⟨⟨rfl, rfl, spelled⟩, ⟨rfl, by decide⟩, ?_⟩
  intro all
  exact (all "_cache" "a/b" "a//b" _ _ (by decide) rfl rfl).1 spelled

end BuildHook.Workspace
