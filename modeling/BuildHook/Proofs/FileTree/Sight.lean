import BuildHook.Proofs.FileTree.Making
import BuildHook.Proofs.Path.Straight

/-!
# What is seen of a directory

All that can be learned about a directory and done in it depends on what is seen of it: what would
stand in it if it were made, and whether it is there. Nothing that is done in or above a directory
beside it changes that. Symbolic links must stand neither on the way to the directory nor under the
name of the file that is read in it.

## Main results

`comes_ofPath`, `contents?_sight`, `sight_replace` and `readText_join` say what is done and learned,
`sight_of_spares` and `sparesBeside_replace` what is left alone.
-/

namespace BuildHook.FileTree

open BuildHook.Path

/-- What is seen of a directory: what would stand in it if it were made, and whether there is
something. -/
structure Sight where
  view : Except IoError Contents
  there : Bool

/-- What is seen of the directory that a straight path names. -/
def sight (tree : FileTree) (path : String) : Except IoError Sight :=
  (tree.climb (originOf (isAbsolute path)) (rise path)).map fun top =>
    ⟨(tree.atOrigin top).prospect (descent path), (tree.atOrigin top).leads (descent path)⟩

/-- What is answered when a directory is made. -/
def answerOf (path : String) (seen : Except IoError Sight) : Except IoError Unit :=
  (checkPath path).bind fun _ => seen.bind fun sight =>
    verdict (endsInDot path) sight.view sight.there

/-- What stands in the directory that a path names, if it is one. -/
def contents? (tree : FileTree) (path : String) : Option Contents :=
  match (tree.directory path).map tree.entryAt with
  | .ok (.directory entries) => some entries
  | _ => none

/-- Puts something else into the directory that a path names, if it is one. -/
def replace (tree : FileTree) (path : String) (new : Contents) : FileTree :=
  match tree.directory path with
  | .ok place => tree.put place.location (.directory new)
  | .error _ => tree

/-- No symbolic link stands in the way to a directory of which something is seen. -/
def IsClear (seen : Except IoError Sight) : Prop :=
  ∀ sight, seen = .ok sight → sight.view ≠ .error .tooManyLinks

/-- Nor does one stand there under a name. -/
def IsPlain (name : String) (seen : Except IoError Sight) : Prop :=
  ∀ sight, seen = .ok sight →
    (sight.view.bind fun entries => (Entry.directory entries).enter name.toList)
      ≠ .error .tooManyLinks

variable {tree after : FileTree} {path : String} {top : Origin}

theorem IsPlain.isClear {name : String} {seen : Except IoError Sight} (plain : IsPlain name seen) :
    IsClear seen := by
  intro sight found blocked
  apply plain sight found
  rw [blocked]
  rfl

theorem IsClear.clear (clear : IsClear (tree.sight path)) :
    tree.Clear (originOf (isAbsolute path)) (rise path) (descent path) := by
  intro top climbed met
  have seen : tree.sight path = .ok ⟨(tree.atOrigin top).prospect (descent path),
      (tree.atOrigin top).leads (descent path)⟩ := by
    rw [sight, climbed]
    rfl
  exact clear _ seen (Entry.find_tooManyLinks_iff.mp met)

/-- Where no symbolic link is met on the way along a path, none stands on it. -/
theorem isPlain_of_unlinked {name : String} (straight : isStraight path = true)
    (normal : (components name).all Component.isNormal = true)
    (single : descent name = [name.toList]) (unlinked : tree.Unlinked (join path name)) :
    IsPlain name (tree.sight path) := by
  have denotes := denotes_of_isStraight (isStraight_join normal straight)
  rw [isAbsolute_join normal, rise_join normal, descent_join normal, single] at denotes
  rw [Unlinked, startOf_eq denotes] at unlinked
  have clear := (clear_iff_route _ _ denotes.steps denotes.ordinary).mpr unlinked
  intro seen found blocked
  rw [sight] at found
  cases climbed : tree.climb (originOf (isAbsolute path)) (rise path) with
  | error cause =>
    rw [climbed] at found
    cases found
  | ok top =>
    rw [climbed] at found
    cases found
    apply clear top climbed
    rw [Entry.find_tooManyLinks_iff, Entry.prospect_append_singleton]
    dsimp only at blocked
    cases hp : (tree.atOrigin top).prospect (descent path) with
    | error cause =>
      rw [hp] at blocked
      cases blocked
      rfl
    | ok entries =>
      rw [hp] at blocked
      have entered : (Entry.directory entries).enter name.toList = .error .tooManyLinks := blocked
      show (Entry.directory entries).prospect [name.toList] = _
      rw [Entry.prospect_cons, entered]
      rfl

/-- What spares the way to a directory leaves what is seen of it. -/
theorem sight_of_spares (spares : Spares (descent path) tree after) :
    after.sight path = tree.sight path := by
  unfold sight
  rw [spares.grows.climb]
  cases tree.climb (originOf (isAbsolute path)) (rise path) with
  | error cause => rfl
  | ok top =>
    simp only [Except.map]
    rw [(spares top).grows.prospect, (spares top).leads]

theorem sight_of_climb (climbed : tree.climb (originOf (isAbsolute path)) (rise path) = .ok top) :
    tree.sight path
      = .ok ⟨(tree.atOrigin top).prospect (descent path),
          (tree.atOrigin top).leads (descent path)⟩ := by
  rw [sight, climbed]
  rfl

/-- What stands in a directory that is seen. -/
def shown (path : String) (seen : Except IoError Sight) : Option Contents :=
  match (checkPath path).bind fun _ => seen with
  | .ok ⟨.ok entries, true⟩ => some entries
  | _ => none

theorem shown_eq_some_iff {seen : Except IoError Sight} {entries : Contents} :
    shown path seen = some entries
      ↔ checkPath path = .ok () ∧ seen = .ok ⟨.ok entries, true⟩ := by
  unfold shown
  cases checkPath path with
  | error cause => simp [Except.bind]
  | ok done =>
    cases seen with
    | error cause => simp [Except.bind]
    | ok sight =>
      obtain ⟨view, there⟩ := sight
      cases view <;> cases there <;> simp [Except.bind]

theorem answerOf_eq_ok_iff {seen : Except IoError Sight} :
    answerOf path seen = .ok ()
      ↔ checkPath path = .ok () ∧ ∃ entries there, seen = .ok ⟨.ok entries, there⟩
        ∧ (endsInDot path = true → there = true) := by
  unfold answerOf
  cases checkPath path with
  | error cause => simp [Except.bind]
  | ok done =>
    cases seen with
    | error cause => simp [Except.bind]
    | ok sight =>
      obtain ⟨view, there⟩ := sight
      cases view <;> cases there <;> simp [Except.bind, verdict]

/-- The directory to which a straight path leads. -/
theorem directory_of_isStraight (straight : isStraight path = true)
    (clear : IsClear (tree.sight path)) :
    (tree.directory path).map tree.spot
      = (checkPath path).bind fun _ =>
        (tree.climb (originOf (isAbsolute path)) (rise path)).bind fun top =>
          below (tree.atOrigin top) top (descent path) := by
  cases usable : checkPath path with
  | error cause =>
    rw [directory, locate, locateFrom, usable]
    rfl
  | ok done => exact directory_of_denotes (denotes_of_isStraight straight) usable clear.clear

/-- What stands in a directory that was reached. -/
def entriesOf : Except IoError (Location × Entry) → Option Contents
  | .ok (_, .directory entries) => some entries
  | _ => none

theorem contents?_eq (tree : FileTree) (path : String) :
    tree.contents? path = entriesOf ((tree.directory path).map tree.spot) := by
  unfold contents?
  cases tree.directory path with
  | error cause => rfl
  | ok place =>
    simp only [Except.map, spot]
    cases tree.entryAt place <;> rfl

theorem shown_eq (tree : FileTree) (path : String) :
    shown path (tree.sight path) = entriesOf ((checkPath path).bind fun _ =>
      (tree.climb (originOf (isAbsolute path)) (rise path)).bind fun top =>
        below (tree.atOrigin top) top (descent path)) := by
  unfold shown sight
  cases checkPath path with
  | error cause => rfl
  | ok done =>
    cases tree.climb (originOf (isAbsolute path)) (rise path) with
    | error cause => rfl
    | ok top =>
      simp only [Except.bind, Except.map, below, Entry.leads]
      cases hf : (tree.atOrigin top).find (descent path) with
      | error cause => cases (tree.atOrigin top).prospect (descent path) <;> rfl
      | ok inner =>
        rw [Entry.prospect_of_find hf]
        cases inner <;> rfl

/-- What stands in a directory is seen. -/
theorem contents?_sight (straight : isStraight path = true) (clear : IsClear (tree.sight path)) :
    tree.contents? path = shown path (tree.sight path) := by
  rw [contents?_eq, directory_of_isStraight straight clear, shown_eq]

/-- A directory is seen, and what stands in it can be replaced, or neither. -/
theorem shown_cases (straight : isStraight path = true) (clear : IsClear (tree.sight path)) :
    (shown path (tree.sight path) = none ∧ ∀ new, tree.replace path new = tree)
    ∨ ∃ place top entries, shown path (tree.sight path) = some entries
      ∧ tree.directory path = .ok place ∧ place.location = ⟨top, descent path⟩
      ∧ tree.climb (originOf (isAbsolute path)) (rise path) = .ok top
      ∧ (tree.atOrigin top).find (descent path) = .ok (.directory entries) := by
  have reached := directory_of_isStraight straight clear
  have seen := shown_eq tree path
  rw [← reached] at seen
  cases hd : tree.directory path with
  | error cause =>
    rw [hd] at seen
    exact .inl ⟨seen, fun new => by rw [replace, hd]⟩
  | ok place =>
    rw [hd] at reached seen
    cases usable : checkPath path with
    | error cause =>
      rw [usable] at reached
      cases reached
    | ok done =>
      cases climbed : tree.climb (originOf (isAbsolute path)) (rise path) with
      | error cause =>
        rw [usable, climbed] at reached
        cases reached
      | ok top =>
        rw [usable, climbed] at reached
        obtain ⟨location, found, directory⟩ :
            place.location = ⟨top, descent path⟩
            ∧ (tree.atOrigin top).find (descent path) = .ok (tree.entryAt place)
            ∧ (tree.entryAt place).isDirectory = true := below_ok reached.symm
        obtain ⟨entries, he⟩ := Entry.exists_eq_directory directory
        rw [he] at found
        refine .inr ⟨place, top, entries, ?_, rfl, location, rfl, found⟩
        rw [seen, Except.map, spot, he]
        rfl

theorem checkPath_error {cause : IoError} (refused : checkPath path = .error cause)
    (some_char : path ≠ "") : cause ≠ .notFound := by
  unfold checkPath at refused
  split at refused
  · cases refused
    decide
  · split at refused
    · cases refused
      decide
    · cases refused

/-- What is seen of a directory after it was made, if it could be. -/
def making (path : String) (seen : Except IoError Sight) : Except IoError Sight :=
  seen.map fun sight => ⟨sight.view, (answerOf path seen).isOk || sight.there⟩

/-- What has come of making a directory, by what was seen of it before. -/
structure Answers (path : String) (seen : Except IoError Sight) (answer : Except IoError Unit)
    (after : FileTree) : Prop where
  answer : answer = answerOf path seen
  sight : after.sight path = making path seen

/-- Where climbing ends at a file, no directory is made or found. -/
theorem unreachable {absolute : Bool} {levels : Nat} {names : List (List Char)} {cause : IoError}
    (denotes : Denotes path absolute levels names) (below_top : names ≠ [])
    (usable : checkPath path = .ok ())
    (climbed : tree.climb (originOf absolute) levels = .error cause) :
    tree.makeDirectory path = .error .notADirectory ∧ tree.isDirectory path = false := by
  obtain rfl := climb_error climbed
  have nowhere : tree.Clear (originOf absolute) levels names := by
    intro top found
    rw [climbed] at found
    cases found
  have unreached := directory_of_denotes denotes usable nowhere
  obtain ⟨above, name, rfl⟩ : ∃ above name, names = above ++ [name] :=
    ⟨_, _, (List.dropLast_concat_getLast below_top).symm⟩
  rw [makeDirectory_of_denotes denotes usable nowhere, climbed]
  refine ⟨rfl, ?_⟩
  rw [climbed] at unreached
  rw [isDirectory]
  cases hd : tree.directory path with
  | error cause => rfl
  | ok place =>
    rw [hd] at unreached
    cases unreached

section Making

variable (straight : isStraight path = true) (named : descent path ≠ [])

include straight named

/-- Nothing is made where something else than a missing directory stands in the way. -/
theorem comes_blocked {cause : IoError} (there : cause ≠ .notFound)
    (failed : ∀ now, Spares (descent path) tree now →
      now.makeDirectory path = .error cause ∧ now.isDirectory path = false)
    (answer : answerOf path (tree.sight path) = .error cause) :
    Comes (descent path) (Answers path (tree.sight path)) (Creation.ofPath path) tree := by
  have some_component : (components path).reverse ≠ [] := by
    rw [components_of_isStraight straight]
    simp [named]
  rw [Creation.ofPath]
  split
  · next none => exact absurd none some_component
  · intro now others
    have made : perform (.make path) now = (.error cause, now) := by
      rw [perform, (failed now others).1]
      rfl
    rw [made]
    refine ⟨.refl _ _, ?_⟩
    show Comes _ _ (Creation.goOn path _ (.error cause)) now
    rw [Creation.goOn, if_neg there]
    intro later more
    have spares := others.trans more
    have found : perform (.find path) later = (false, later) := by
      rw [perform, (failed later spares).2]
      rfl
    rw [found]
    refine ⟨.refl _ _, answer.symm, ?_⟩
    rw [sight_of_spares spares, making, answer]
    cases tree.sight path <;> rfl

/-- Making a directory call by call is answered by what is seen of it before the first call, and
shows the same but for whether it is there. -/
theorem comes_ofPath (clear : IsClear (tree.sight path)) :
    Comes (descent path) (Answers path (tree.sight path)) (Creation.ofPath path) tree := by
  have whole := components_of_isStraight straight
  have denotes := denotes_of_isStraight straight
  have some_char : path ≠ "" := by
    rintro rfl
    exact named rfl
  cases usable : checkPath path with
  | error cause =>
    refine comes_blocked straight named (checkPath_error usable some_char) (fun now _ => ?_) ?_
    · rw [makeDirectory, isDirectory, directory, locate, locateFrom, usable]
      exact ⟨rfl, rfl⟩
    · rw [answerOf, usable]
      rfl
  | ok done =>
    cases climbed : tree.climb (originOf (isAbsolute path)) (rise path) with
    | error cause =>
      refine comes_blocked straight named (by decide : IoError.notADirectory ≠ .notFound)
        (fun now others => ?_) ?_
      · exact unreachable denotes named usable ((others.grows.climb _ _).trans climbed)
      · rw [answerOf, usable, sight, climbed, climb_error climbed]
        rfl
    | ok top =>
      have seen := sight_of_climb climbed
      have isOpen : IsOpen (originOf (isAbsolute path)) (rise path) (descent path) top tree :=
        ⟨climbed, clear.clear top climbed⟩
      refine (ensures_ofPath whole (not_isNormal_of_mem_lead path) usable isOpen named).mono
        fun answer after ensures => ?_
      have answered : answer = answerOf path (tree.sight path) := by
        rw [ensures.answered, answerOf, usable, seen]
        rfl
      refine ⟨answered, ?_⟩
      have climbed' := (isOpen.grows ensures.grows).climbed
      rw [sight_of_climb climbed', (ensures.grows top).prospect, ensures.leads, making,
        ← answered, seen]
      rfl

/-- Making a directory with no other call in between is answered by what is seen of it. -/
theorem makeDirectories_sight (clear : IsClear (tree.sight path)) :
    Answers path (tree.sight path) (tree.makeDirectories path).1 (tree.makeDirectories path).2 :=
  (comes_ofPath straight named clear).run (Spares.refl (descent path))

end Making

/-- A directory that is there need not be made. -/
theorem answerOf_of_shown {seen : Except IoError Sight}
    (there : (shown path seen).isSome = true) : answerOf path seen = .ok () := by
  obtain ⟨entries, found⟩ := Option.isSome_iff_exists.mp there
  obtain ⟨usable, same⟩ := shown_eq_some_iff.mp found
  exact answerOf_eq_ok_iff.mpr ⟨usable, entries, true, same, fun _ => rfl⟩

/-- A directory that has been made is there. -/
theorem shown_making {seen : Except IoError Sight} (made : answerOf path seen = .ok ()) :
    (shown path (making path seen)).isSome = true := by
  obtain ⟨usable, entries, there, same, -⟩ := answerOf_eq_ok_iff.mp made
  have shows : shown path (making path seen) = some entries := by
    refine shown_eq_some_iff.mpr ⟨usable, ?_⟩
    rw [making, made, same]
    rfl
  rw [shows]
  rfl

/-- What is seen of a directory after something else was put into it, if it is one. -/
def replacing (path : String) (new : Contents) (seen : Except IoError Sight) :
    Except IoError Sight :=
  if (shown path seen).isSome then .ok ⟨.ok new, true⟩ else seen

section Replacing

variable (straight : isStraight path = true) (named : descent path ≠ [])
  (clear : IsClear (tree.sight path)) (new : Contents)

include straight clear

/-- A directory that shows something is found where it shows it, and replaced there. -/
theorem replace_cases :
    shown path (tree.sight path) = none ∧ tree.replace path new = tree
    ∨ ∃ top inner, (shown path (tree.sight path)).isSome = true
      ∧ tree.climb (originOf (isAbsolute path)) (rise path) = .ok top
      ∧ (tree.atOrigin top).find (descent path) = .ok inner
      ∧ tree.replace path new = tree.put ⟨top, descent path⟩ (.directory new) := by
  rcases shown_cases straight clear with
    ⟨unseen, kept⟩ | ⟨place, top, entries, seen, reached, location, climbed, found⟩
  · exact .inl ⟨unseen, kept new⟩
  · refine .inr ⟨top, _, by rw [seen]; rfl, climbed, found, ?_⟩
    rw [replace, reached, ← location]

/-- Replacing the content of a directory spares what lies beside it. -/
theorem sparesBeside_replace : SparesBeside (descent path) tree (tree.replace path new) := by
  intro other outside beyond
  rcases replace_cases straight clear new with
    ⟨unseen, kept⟩ | ⟨top, inner, seen, climbed, found, put⟩
  · rw [kept]
    exact .refl _ _
  · rw [put]
    exact spares_put (Entry.spares_put_apart (.directory new) found beyond outside)

include named

/-- What replaces the content of a directory is seen in it. -/
theorem sight_replace :
    (tree.replace path new).sight path = replacing path new (tree.sight path) := by
  rcases replace_cases straight clear new with
    ⟨unseen, kept⟩ | ⟨top, inner, seen, climbed, found, put⟩
  · rw [replacing, unseen, kept]
    rfl
  · have stands : (tree.replace path new).atOrigin top
        = (tree.atOrigin top).put (descent path) (.directory new) := by
      rw [put, atOrigin_put, if_pos rfl]
    have directories (origin : Origin) :
        ((tree.replace path new).atOrigin origin).isDirectory
          = (tree.atOrigin origin).isDirectory := by
      rw [put, atOrigin_put]
      split
      · obtain ⟨first, rest, split⟩ := List.exists_cons_of_ne_nil named
        rw [split, Entry.isDirectory_put]
      · rfl
    have climbed' := (climb_congr directories _ _).trans climbed
    have found' := Entry.find_put_self (.directory new) (fun _ => nofun) found
    rw [replacing, if_pos seen, sight_of_climb climbed', stands, Entry.leads,
      Entry.prospect_of_find found', found']
    rfl

end Replacing

/-- The text of a file. -/
def textOf : Entry → Except IoError String
  | .directory _ => .error .isADirectory
  | .link _ => .error .tooManyLinks
  | .file content =>
    match Utf8.decode? content with
    | some text => .ok text
    | none => .error .notUtf8

/-- The directory at which a path arrives that shows something. -/
theorem arrive_of_shown {entries : Contents} (straight : isStraight path = true)
    (seen : shown path (tree.sight path) = some entries) :
    ∃ place, tree.arrive (startOf (.start .here) path) (pieces path.toList) = .ok place
      ∧ tree.entryAt place = .directory entries ∧ path ≠ "" := by
  have denotes := denotes_of_isStraight straight
  have arrives := arrive_of_steps tree (originOf (isAbsolute path)) denotes.steps
    denotes.ordinary
  rw [shown_eq] at seen
  cases usable : checkPath path with
  | error cause =>
    rw [usable] at seen
    cases seen
  | ok done =>
    rw [usable] at seen
    rw [startOf_eq denotes]
    cases ha : tree.arrive (.start (originOf (isAbsolute path))) (pieces path.toList) with
    | error cause =>
      rw [ha] at arrives
      rw [Except.bind, ← arrives] at seen
      cases seen
    | ok place =>
      rw [ha] at arrives
      rw [Except.bind, ← arrives] at seen
      refine ⟨place, rfl, ?_, ?_⟩
      · simp only [Except.map, spot] at seen
        cases he : tree.entryAt place with
        | directory stands =>
          rw [he] at seen
          exact congrArg Entry.directory (Option.some.inj seen)
        | _ =>
          rw [he] at seen
          cases seen
      · rintro rfl
        cases usable

/-- What is read from a file in a directory that is there depends on what stands in it. -/
theorem readText_join {name : String} {entries : Contents} (straight : isStraight path = true)
    (ordinary : IsName name) (start : isAbsolute (join path name) = isAbsolute path)
    (plain : IsPlain name (tree.sight path))
    (seen : shown path (tree.sight path) = some entries) :
    tree.readText (join path name) = (checkPath (join path name)).bind fun _ =>
      ((Entry.directory entries).find [name.toList]).bind textOf := by
  obtain ⟨place, arrives, stands, some_char⟩ := arrive_of_shown straight seen
  obtain ⟨front, split, before⟩ := pieces_join ordinary some_char
  have front_arrives : tree.arrive (startOf (.start .here) path) front = .ok place := by
    rcases before with same | separated
    · rwa [← same]
    · rw [separated, arrive_stepsOf, stepsOf_append] at arrives
      rw [arrive_stepsOf]
      simpa [stepsOf, isIdle] using arrives
  have routed : tree.route (startOf (.start .here) path) (front ++ [name.toList])
      = ((Entry.directory entries).enter name.toList).bind fun child =>
        child.elim (.error .notFound) fun child =>
          .ok ⟨place.origin, (name.toList, child) :: place.trail⟩ := by
    rw [route_append_singleton, front_arrives]
    show tree.route place [name.toList] = _
    rw [route_name place ordinary.1, stands]
    rfl
  have entered : (Entry.directory entries).enter name.toList ≠ .error .tooManyLinks :=
    plain _ (shown_eq_some_iff.mp seen).2
  have located : tree.locate (join path name) = (checkPath (join path name)).bind fun _ =>
      tree.route (startOf (.start .here) path) (front ++ [name.toList]) := by
    have same_start : startOf (.start .here) (join path name) = startOf (.start .here) path := by
      rw [startOf, start, startOf]
    have unlinked : tree.route (startOf (.start .here) path) (front ++ [name.toList])
        ≠ .error .tooManyLinks := by
      rw [routed]
      cases he : (Entry.directory entries).enter name.toList with
      | error cause => exact fun same => entered (he.trans (congrArg _ (Except.error.inj same)))
      | ok child =>
        cases child with
        | none => exact fun same => absurd (Except.error.inj same) (by decide)
        | some child => simp [Except.bind]
    rw [locate, locateFrom, same_start, split, walk, walkWithin_of_route maxLinks unlinked]
    cases checkPath (join path name) <;> rfl
  rw [readText, read, located, routed, Entry.find_cons]
  cases checkPath (join path name) with
  | error cause => rfl
  | ok done =>
    cases he : (Entry.directory entries).enter name.toList with
    | error cause => rfl
    | ok child =>
      cases child with
      | none => rfl
      | some child => cases child <;> rfl

end BuildHook.FileTree
