import BuildHook.Build.Run
import BuildHook.Proofs.Path.Straight

/-!
# Workspaces inside the cache

The check of a name looks at its components, but its text is joined to the cache root as it is. Both
see the same: a name that is accepted leads down from the root by its own pieces, of which none is
lost but those that lead nowhere, and never up.

## Main results

`dir?_contained` says which names are accepted, where their workspaces are, which of them coincide,
and what becomes of a build whose name is refused.
-/

namespace BuildHook.Path

/-- The pieces of a path are what stands between its separators. -/
theorem pieces_eq_splitOn (path : List Char) : pieces path = path.splitOn '/' := by
  calc
    pieces path = (['/'].intercalate (pieces path)).splitOn '/' :=
      (List.splitOn_intercalate '/' (not_mem_of_mem_pieces path) (pieces_ne_nil path)).symm
    _ = path.splitOn '/' := by rw [intercalate_pieces]

/-- Pieces behind the first one are ordinary names unless one of them leads up. -/
theorem all_inner_normal_iff (pieces : List (List Char)) :
    (pieces.filterMap innerComponent?).all Component.isNormal = true ↔ up ∉ pieces := by
  rw [List.all_eq_true]
  constructor
  · intro all member
    have normal := all .parent (List.mem_filterMap.mpr ⟨up, member, rfl⟩)
    cases normal
  · intro low c member
    obtain ⟨piece, mem, found⟩ := List.mem_filterMap.mp member
    have not_up : piece ≠ up := fun same => low (same ▸ mem)
    unfold innerComponent? at found
    split at found
    · cases found
    split at found
    · cases found
    rw [if_neg (show ¬ piece = ['.', '.'] from not_up)] at found
    cases found
    rfl

/-- A path leads down by names alone if it is relative, does not begin with the piece `.` and has no
piece `..`. -/
theorem all_normal_iff (path : List Char) :
    (componentsOf path).all Component.isNormal = true
      ↔ path.head? ≠ some '/' ∧ (pieces path).head? ≠ some ['.'] ∧ up ∉ pieces path := by
  cases path with
  | nil => decide
  | cons c rest =>
    by_cases absolute : c = '/'
    · subst absolute
      simp [componentsOf, Component.isNormal]
    · obtain ⟨first, more, hp⟩ := List.exists_cons_of_ne_nil (pieces_ne_nil (c :: rest))
      rw [componentsOf_of_ne absolute _ _ _ hp, hp]
      by_cases current : first = ['.']
      · simp [firstComponent?, current, Component.isNormal]
      · have inner : (firstComponent? first).toList ++ more.filterMap innerComponent?
            = (first :: more).filterMap innerComponent? := by
          rw [firstComponent?, if_neg current, List.filterMap_cons]
          cases innerComponent? first <;> rfl
        rw [inner, all_inner_normal_iff]
        simp [absolute, current]

/-- Ordinary names are the steps of the path that they make up. -/
theorem components_eq_steps {path : String}
    (normal : (components path).all Component.isNormal = true) :
    components path = (stepsOf (pieces path.toList)).map Component.normal := by
  have named := map_normal_text normal
  have level : ∀ c ∈ ([] : List Component), c.isNormal = false := nofun
  have steps := filterMap_step? level ((components path).map Component.text)
  rw [List.nil_append, named] at steps
  rw [stepsOf_pieces, ← components, steps]
  exact named.symm

end BuildHook.Path

namespace BuildHook.Workspace

open BuildHook.Path

/-- The names in the full name of a repository: its pieces but for those that are empty or `.`. -/
def names (fullName : String) : List (List Char) :=
  (fullName.toList.splitOn '/').filter fun piece => piece ≠ [] ∧ piece ≠ ['.']

theorem names_eq (fullName : String) : names fullName = stepsOf (pieces fullName.toList) := by
  rw [names, pieces_eq_splitOn, stepsOf]
  congr 1
  funext piece
  simp [isIdle]

theorem accepts_iff (fullName : String) :
    accepts fullName = true ↔ fullName ≠ "" ∧ fullName.toList.head? ≠ some '/'
      ∧ (fullName.toList.splitOn '/').head? ≠ some ['.']
      ∧ ['.', '.'] ∉ fullName.toList.splitOn '/' := by
  rw [accepts, Bool.and_eq_true, bne_iff_ne, ← pieces_eq_splitOn]
  exact and_congr_right' (all_normal_iff fullName.toList)

theorem isSome_dir? (cacheRoot fullName : String) :
    (dir? cacheRoot fullName).isSome = accepts fullName := by
  unfold dir?
  cases accepts fullName <;> rfl

/-- A workspace is below the cache root by the names of its repository. -/
theorem components_dir? {cacheRoot fullName workspace : String}
    (found : dir? cacheRoot fullName = some workspace) :
    components workspace = components cacheRoot ++ (names fullName).map Component.normal := by
  rw [components_of_dir? found, components_eq_steps (dir?_eq found).1, names_eq]

theorem names_ne_nil {cacheRoot fullName workspace : String}
    (found : dir? cacheRoot fullName = some workspace) : names fullName ≠ [] := by
  intro none_left
  have some_char : fullName ≠ "" := by
    rintro rfl
    cases found
  apply components_ne_nil some_char
  rw [components_eq_steps (dir?_eq found).1, ← names_eq, none_left, List.map_nil]

/-- A name is accepted exactly if it is not empty, is relative, does not begin with the piece `.`
and has no piece `..`. Its workspace is then below the cache root, by ordinary names alone, which
are its own; so the workspace is never the root itself nor anywhere outside. Workspaces are equal
exactly if the names in the full names are. A build of any other name ends with an error that tells
this name, and asks for nothing. -/
theorem dir?_contained (cacheRoot fullName : String) :
    ((dir? cacheRoot fullName).isSome = true
      ↔ fullName ≠ "" ∧ fullName.toList.head? ≠ some '/'
        ∧ (fullName.toList.splitOn '/').head? ≠ some ['.']
        ∧ ['.', '.'] ∉ fullName.toList.splitOn '/')
    ∧ (∀ workspace, dir? cacheRoot fullName = some workspace →
      components workspace = components cacheRoot ++ (names fullName).map Component.normal
      ∧ names fullName ≠ []
      ∧ components cacheRoot <+: components workspace
      ∧ components workspace ≠ components cacheRoot)
    ∧ (∀ other workspace place, dir? cacheRoot fullName = some workspace →
      dir? cacheRoot other = some place →
      (components workspace = components place ↔ names fullName = names other))
    ∧ (dir? cacheRoot fullName = none →
      ∀ (settings : Build.Settings) (push : Push) (project : ProjectRecord)
        (key : Option StagedKey), settings.cacheRoot = cacheRoot → push.fullName = fullName →
        Build.work settings push project key = .done (.error (.invalidRepository fullName))) := by
  refine ⟨?_, ?_, ?_, ?_⟩
  · rw [isSome_dir?]
    exact accepts_iff fullName
  · intro workspace found
    have whole := components_dir? found
    have some_name := names_ne_nil found
    refine ⟨whole, some_name, ⟨_, whole.symm⟩, fun same => some_name ?_⟩
    rw [whole] at same
    exact List.map_eq_nil_iff.mp (List.append_right_eq_self.mp same)
  · intro other workspace place found found'
    rw [components_dir? found, components_dir? found', List.append_cancel_left_eq]
    exact List.map_inj_right fun _ _ same => Component.normal.inj same
  · rintro refused settings push project key rfl rfl
    unfold Build.work
    rw [refused]
    rfl

/-- A name with empty pieces, a `.` and a separator at its end has its two names below a root that
ends in a separator. -/
theorem dir?_contained_dotted :
    dir? "./cache/" "a//./b/" = some "./cache/a//./b/"
    ∧ components "./cache/a//./b/"
      = [.current, .normal "cache".toList, .normal ['a'], .normal ['b']]
    ∧ dir? "./cache/" "a/../../b" = none := by
  have found : dir? "./cache/" "a//./b/" = some "./cache/a//./b/" := rfl
  refine ⟨found, ?_, rfl⟩
  rw [((dir?_contained "./cache/" "a//./b/").2.1 _ found).1]
  decide

end BuildHook.Workspace
