import BuildHook.Proofs.FileTree.View
import BuildHook.Proofs.Path.Steps

/-!
# Walks along straight paths

A straight path leads up some levels and then down by names. Where it leads, and what can be made
there, depends only on how far up one can climb and on where the names lead from there.

## Main results

`directory_of_denotes` and `makeDirectory_of_denotes` say so of looking for a directory and of
making one.
-/

namespace BuildHook.FileTree

open BuildHook.Path

/-- The origin to which climbing some levels leads. -/
def climb (tree : FileTree) (origin : Origin) : Nat → Except IoError Origin
  | 0 => .ok origin
  | levels + 1 =>
    if (tree.atOrigin origin).isDirectory = false then .error .notADirectory
    else tree.climb origin.parent levels

/-- Follows the pieces of a path from a place, and no symbolic link. -/
def route (tree : FileTree) (here : Place) (pieces : List (List Char)) : Except IoError Place :=
  tree.walkWithin 0 here pieces

/-- No symbolic link is met on the way along a path. -/
def Unlinked (tree : FileTree) (path : String) : Prop :=
  tree.route (startOf (.start .here) path) (pieces path.toList) ≠ .error .tooManyLinks

instance (tree : FileTree) (path : String) : Decidable (tree.Unlinked path) :=
  match h : tree.route (startOf (.start .here) path) (pieces path.toList) with
  | .ok _ => isTrue (by simp [Unlinked, h])
  | .error cause => decidable_of_iff (cause ≠ .tooManyLinks) (by simp [Unlinked, h])

/-- The directory to which pieces lead from a place. -/
def arrive (tree : FileTree) (here : Place) (pieces : List (List Char)) : Except IoError Place :=
  (tree.route here pieces).bind fun place =>
    if (tree.entryAt place).isDirectory then .ok place else .error .notADirectory

/-- The origin at which a path starts. -/
def originOf (absolute : Bool) : Origin := if absolute then .root else .here

variable {tree : FileTree} {path : String} {absolute : Bool} {levels : Nat}
  {names : List (List Char)}

theorem startOf_eq (denotes : Denotes path absolute levels names) :
    startOf (.start .here) path = .start (originOf absolute) := by
  unfold startOf originOf
  rw [denotes.absolute]
  cases absolute <;> rfl

/-- What one piece leads to: a place, or a symbolic link. -/
inductive Pace where
  | place (next : Place)
  | link (target : String)

/-- What one piece leads to from a place. -/
def pace (tree : FileTree) (here : Place) (piece : List Char) : Except IoError Pace :=
  if (tree.entryAt here).isDirectory = false then .error .notADirectory
  else if isIdle piece then .ok (.place here)
  else if piece = up then .ok (.place here.parent)
  else if maxName < byteLength piece then .error .nameTooLong
  else
    match (tree.entryAt here).child? piece with
    | some (.link target) => .ok (.link target)
    | some child => .ok (.place ⟨here.origin, (piece, child) :: here.trail⟩)
    | none => .error .notFound

/-- A walk goes piece by piece. -/
theorem walkBy_cons (follow : Place → List (List Char) → Except IoError Place) (here : Place)
    (piece : List Char) (rest : List (List Char)) :
    tree.walkBy follow here (piece :: rest) = (tree.pace here piece).bind fun
      | .place next => tree.walkBy follow next rest
      | .link target => follow (startOf here target) (Path.pieces target.toList ++ rest) := by
  have idle : (decide (piece = []) || decide (piece = ['.'])) = isIdle piece := rfl
  have upward : ['.', '.'] = up := rfl
  simp only [walkBy, pace, idle, upward, Bool.not_eq_true']
  split
  · rfl
  · split
    · rfl
    · split
      · rfl
      · split
        · rfl
        · cases (tree.entryAt here).child? piece with
          | none => rfl
          | some child => cases child <;> rfl

theorem route_cons (here : Place) (piece : List Char) (rest : List (List Char)) :
    tree.route here (piece :: rest) = (tree.pace here piece).bind fun
      | .place next => tree.route next rest
      | .link _ => .error .tooManyLinks :=
  walkBy_cons ..

theorem route_append (tree : FileTree) (here : Place) (first second : List (List Char)) :
    tree.route here (first ++ second)
      = (tree.route here first).bind fun place => tree.route place second := by
  induction first generalizing here with
  | nil => rfl
  | cons piece rest ih =>
    rw [List.cons_append, route_cons, route_cons]
    cases tree.pace here piece with
    | error cause => rfl
    | ok pace =>
      cases pace with
      | place next => exact ih next
      | link target => rfl

/-- Where no symbolic link is met, none is followed. -/
theorem walkWithin_of_route (links : Nat) {here : Place} {pieces : List (List Char)}
    (unlinked : tree.route here pieces ≠ .error .tooManyLinks) :
    tree.walkWithin links here pieces = tree.route here pieces := by
  cases links with
  | zero => rfl
  | succ links =>
    unfold walkWithin
    induction pieces generalizing here with
    | nil => rfl
    | cons piece rest ih =>
      rw [route_cons] at unlinked ⊢
      rw [walkBy_cons]
      cases hp : tree.pace here piece with
      | error cause => rfl
      | ok pace =>
        rw [hp] at unlinked
        cases pace with
        | place next => exact ih unlinked
        | link target => exact absurd rfl unlinked

/-- From a file or a link no piece leads on. -/
theorem route_of_file {here : Place} (file : (tree.entryAt here).isDirectory = false)
    (piece : List Char) (rest : List (List Char)) :
    tree.route here (piece :: rest) = .error .notADirectory := by
  rw [route_cons, pace, if_pos file]
  rfl

theorem route_idle {here : Place} (directory : (tree.entryAt here).isDirectory = true)
    {piece : List Char} (idle : isIdle piece = true) (rest : List (List Char)) :
    tree.route here (piece :: rest) = tree.route here rest := by
  rw [route_cons, pace, if_neg (by simp [directory]), if_pos idle]
  rfl

theorem route_upward {here : Place} (directory : (tree.entryAt here).isDirectory = true)
    (rest : List (List Char)) : tree.route here (up :: rest) = tree.route here.parent rest := by
  rw [route_cons, pace, if_neg (by simp [directory]), if_neg (by decide), if_pos rfl]
  rfl

theorem arrive_of_file {here : Place} (file : (tree.entryAt here).isDirectory = false)
    (pieces : List (List Char)) : tree.arrive here pieces = .error .notADirectory := by
  cases pieces with
  | nil => simp [arrive, route, walkWithin, walkBy, file, Except.bind]
  | cons piece rest => rw [arrive, route_of_file file]; rfl

theorem arrive_append (tree : FileTree) (here : Place) (first second : List (List Char)) :
    tree.arrive here (first ++ second)
      = (tree.route here first).bind fun place => tree.arrive place second := by
  rw [arrive, route_append]
  cases tree.route here first <;> rfl

/-- A directory is reached by the steps of a path alone. -/
theorem arrive_stepsOf (tree : FileTree) (here : Place) (pieces : List (List Char)) :
    tree.arrive here pieces = tree.arrive here (stepsOf pieces) := by
  induction pieces generalizing here with
  | nil => rfl
  | cons piece rest ih =>
    cases hd : (tree.entryAt here).isDirectory with
    | false => rw [arrive_of_file hd, arrive_of_file hd]
    | true =>
      rw [stepsOf_cons]
      split
      · next idle => rw [arrive, route_idle hd idle, ← arrive, ih]
      · next step =>
        rw [← List.singleton_append, arrive_append, ← @List.singleton_append _ piece (stepsOf rest),
          arrive_append, funext ih]

/-- Behind a directory one more piece is followed from it. -/
theorem route_append_singleton (tree : FileTree) (here : Place) (pieces : List (List Char))
    (piece : List Char) :
    tree.route here (pieces ++ [piece])
      = (tree.arrive here pieces).bind fun place => tree.route place [piece] := by
  rw [route_append, arrive]
  cases tree.route here pieces with
  | error cause => rfl
  | ok place =>
    cases hd : (tree.entryAt place).isDirectory with
    | true => simp [Except.bind, hd]
    | false => simp [Except.bind, hd, route_of_file]

/-- Pieces that lead up are climbed one by one. -/
theorem route_up (tree : FileTree) (origin : Origin) (levels : Nat) :
    tree.route (.start origin) (List.replicate levels up)
      = (tree.climb origin levels).map Place.start := by
  induction levels generalizing origin with
  | zero => rfl
  | succ levels ih =>
    have entry : tree.entryAt (.start origin) = tree.atOrigin origin := rfl
    rw [List.replicate_succ, climb]
    cases hd : (tree.atOrigin origin).isDirectory with
    | false => rw [route_of_file (entry ▸ hd)]; rfl
    | true =>
      rw [route_upward (entry ▸ hd), if_neg (by simp)]
      exact ih origin.parent

theorem route_name (here : Place) {name : List Char} (ordinary : IsOrdinary name)
    (rest : List (List Char)) :
    tree.route here (name :: rest)
      = ((tree.entryAt here).enter name).bind fun child =>
        child.elim (.error .notFound) fun child =>
          tree.route ⟨here.origin, (name, child) :: here.trail⟩ rest := by
  have somewhere : ¬ isIdle name = true := by simp [ordinary.not_isIdle]
  rw [route_cons, pace, if_neg somewhere, if_neg ordinary.ne_up, Entry.enter]
  split
  · rfl
  · split
    · rfl
    · cases (tree.entryAt here).child? name with
      | none => rfl
      | some child => cases child <;> rfl

/-- Where a place is, and what stands there. -/
def spot (tree : FileTree) (place : Place) : Location × Entry :=
  (place.location, tree.entryAt place)

/-- Names lead from a place where they lead from the entry that stands there. -/
theorem route_names {here : Place} (ordinary : ∀ name ∈ names, IsOrdinary name) :
    (tree.route here names).map tree.spot
      = ((tree.entryAt here).find names).map fun entry =>
        (⟨here.origin, here.location.names ++ names⟩, entry) := by
  induction names generalizing here with
  | nil => simp [route, walkWithin, walkBy, Entry.find, spot, Except.map, Place.location]
  | cons name rest ih =>
    rw [route_name here (ordinary name List.mem_cons_self), Entry.find_cons]
    cases (tree.entryAt here).enter name with
    | error cause => rfl
    | ok child =>
      cases child with
      | none => rfl
      | some child =>
        have inside := @ih ⟨here.origin, (name, child) :: here.trail⟩
          fun other member => ordinary other (List.mem_cons_of_mem _ member)
        simpa [Place.location, entryAt, Except.bind] using inside

theorem climb_error {origin : Origin} {cause : IoError}
    (blocked : tree.climb origin levels = .error cause) : cause = .notADirectory := by
  induction levels generalizing origin with
  | zero => cases blocked
  | succ levels ih =>
    simp only [climb] at blocked
    split at blocked
    · cases blocked
      rfl
    · exact ih blocked

/-- The directory to which names lead from an entry at an origin. -/
def below (entry : Entry) (origin : Origin) (names : List (List Char)) :
    Except IoError (Location × Entry) :=
  (entry.find names).bind fun inner =>
    if inner.isDirectory then .ok (⟨origin, names⟩, inner) else .error .notADirectory

/-- What pieces lead to whose steps lead up and then down. -/
theorem arrive_of_steps (tree : FileTree) {pieces : List (List Char)} (origin : Origin)
    (steps : stepsOf pieces = List.replicate levels up ++ names)
    (ordinary : ∀ name ∈ names, IsOrdinary name) :
    (tree.arrive (.start origin) pieces).map tree.spot
      = (tree.climb origin levels).bind fun top => below (tree.atOrigin top) top names := by
  rw [arrive_stepsOf, steps, arrive_append, route_up]
  cases tree.climb origin levels with
  | error cause => rfl
  | ok top =>
    have down := @route_names tree names (.start top) ordinary
    have entry : tree.entryAt (.start top) = tree.atOrigin top := rfl
    rw [entry] at down
    show (tree.arrive (.start top) names).map tree.spot = below (tree.atOrigin top) top names
    unfold arrive below
    cases hw : tree.route (.start top) names with
    | error cause =>
      rw [hw] at down
      cases hf : (tree.atOrigin top).find names with
      | error cause' => rw [hf] at down; cases down; rfl
      | ok inner => rw [hf] at down; cases down
    | ok place =>
      rw [hw] at down
      cases hf : (tree.atOrigin top).find names with
      | error cause' => rw [hf] at down; cases down
      | ok inner =>
        rw [hf] at down
        obtain ⟨location, stands⟩ : place.location = ⟨top, names⟩ ∧ tree.entryAt place = inner := by
          simpa [Except.map, spot, Place.start, Place.location] using down
        cases hi : inner.isDirectory <;>
          simp [Except.bind, Except.map, spot, stands, hi, location]

/-- No symbolic link is on the way that leads up some levels and then down by names. -/
def Clear (tree : FileTree) (origin : Origin) (levels : Nat) (names : List (List Char)) : Prop :=
  ∀ top, tree.climb origin levels = .ok top →
    (tree.atOrigin top).find names ≠ .error .tooManyLinks

/-- On the way to the directories above there is none either. -/
theorem Clear.above {origin : Origin} {above more : List (List Char)}
    (clear : tree.Clear origin levels (above ++ more)) : tree.Clear origin levels above := by
  intro top climbed met
  apply clear top climbed
  rw [Entry.find_append, met]
  rfl

/-- An answer tells of a symbolic link whatever else it tells. -/
theorem map_tooManyLinks_iff {α β : Type} (f : α → β) {answer : Except IoError α} :
    answer.map f = .error .tooManyLinks ↔ answer = .error .tooManyLinks := by
  cases answer <;> simp [Except.map]

theorem arrive_tooManyLinks_iff {here : Place} {pieces : List (List Char)} :
    tree.arrive here pieces = .error .tooManyLinks
      ↔ tree.route here pieces = .error .tooManyLinks := by
  unfold arrive
  cases tree.route here pieces with
  | error cause => simp [Except.bind]
  | ok place =>
    refine iff_of_false (fun met => ?_) (by simp)
    simp only [Except.bind] at met
    split at met <;> cases met

theorem below_tooManyLinks_iff {entry : Entry} (top : Origin) :
    below entry top names = .error .tooManyLinks ↔ entry.find names = .error .tooManyLinks := by
  unfold below
  cases entry.find names with
  | error cause => simp [Except.bind]
  | ok inner =>
    refine iff_of_false (fun met => ?_) (by simp)
    simp only [Except.bind] at met
    split at met <;> cases met

section Steps

variable (tree) {pieces : List (List Char)} (origin : Origin)
  (steps : stepsOf pieces = List.replicate levels up ++ names)
  (ordinary : ∀ name ∈ names, IsOrdinary name)

include steps ordinary

/-- Symbolic links are met exactly where they are on the way. -/
theorem clear_iff_route :
    tree.Clear origin levels names ↔ tree.route (.start origin) pieces ≠ .error .tooManyLinks := by
  have arrives := arrive_of_steps tree origin steps ordinary
  rw [ne_eq, ← arrive_tooManyLinks_iff]
  cases climbed : tree.climb origin levels with
  | error cause =>
    rw [climbed, climb_error climbed] at arrives
    have unreached : tree.arrive (.start origin) pieces ≠ .error .tooManyLinks := by
      intro met
      rw [met] at arrives
      cases arrives
    exact ⟨fun _ => unreached, fun _ top found => absurd (climbed.symm.trans found) (by simp)⟩
  | ok top =>
    have same : tree.arrive (.start origin) pieces = .error .tooManyLinks
        ↔ (tree.atOrigin top).find names = .error .tooManyLinks := by
      rw [← below_tooManyLinks_iff top, ← map_tooManyLinks_iff tree.spot, arrives, climbed]
      rfl
    rw [same]
    constructor
    · exact fun clear => clear top climbed
    · intro plain other found
      obtain rfl := Except.ok.inj (climbed.symm.trans found)
      exact plain

/-- What is done with a directory is done where pieces arrive. -/
theorem bind_walk {α : Type} (clear : tree.Clear origin levels names)
    (next : Location × Entry → Except IoError α) :
    ((tree.walk (.start origin) pieces).bind fun place =>
        if (!(tree.entryAt place).isDirectory) = true then .error .notADirectory
        else next (tree.spot place))
      = (tree.climb origin levels).bind fun top =>
        (below (tree.atOrigin top) top names).bind next := by
  have arrives := congrArg (·.bind next) (arrive_of_steps tree origin steps ordinary)
  have assoc : ((tree.climb origin levels).bind fun top =>
      below (tree.atOrigin top) top names).bind next
      = (tree.climb origin levels).bind fun top =>
        (below (tree.atOrigin top) top names).bind next := by
    cases tree.climb origin levels <;> rfl
  rw [← assoc, ← arrives, walk,
    walkWithin_of_route maxLinks ((clear_iff_route tree origin steps ordinary).mp clear), arrive]
  cases tree.route (.start origin) pieces with
  | error cause => rfl
  | ok place => cases hd : (tree.entryAt place).isDirectory <;> simp [Except.bind, Except.map, hd]

end Steps

/-- The directory to which a path leads up and then down. -/
theorem directory_of_denotes (denotes : Denotes path absolute levels names)
    (usable : checkPath path = .ok ()) (clear : tree.Clear (originOf absolute) levels names) :
    (tree.directory path).map tree.spot
      = (tree.climb (originOf absolute) levels).bind fun top =>
        below (tree.atOrigin top) top names := by
  have reached := (clear_iff_route _ _ denotes.steps denotes.ordinary).mp clear
  rw [← arrive_of_steps _ _ denotes.steps denotes.ordinary, arrive,
    ← walkWithin_of_route maxLinks reached]
  congr 1
  show ((checkPath path).bind fun _ => _).bind _ = _
  rw [usable, startOf_eq denotes]
  rfl

/-- Making a directory in another one. -/
def makeIn (tree : FileTree) (name : List Char) (above : Location × Entry) :
    Except IoError FileTree :=
  if maxName < byteLength name then .error .nameTooLong
  else if (above.2.child? name).isSome then .error .alreadyExists
  else .ok (tree.put (above.1.child name) .emptyDirectory)

/-- What comes of making a directory that a path names which leads up and then down. -/
theorem makeDirectory_of_denotes {above : List (List Char)} {name : List Char}
    (denotes : Denotes path absolute levels (above ++ [name])) (usable : checkPath path = .ok ())
    (clear : tree.Clear (originOf absolute) levels (above ++ [name])) :
    tree.makeDirectory path
      = (tree.climb (originOf absolute) levels).bind fun top =>
        if endsInDot path then
          (below (tree.atOrigin top) top (above ++ [name])).bind fun _ => .error .alreadyExists
        else (below (tree.atOrigin top) top above).bind (tree.makeIn name) := by
  have ordinary := denotes.ordinary name (by simp)
  have named : (decide (name = ['.']) || decide (name = ['.', '.'])) = false := by
    rw [Bool.or_eq_false_iff, decide_eq_false_iff_not, decide_eq_false_iff_not]
    constructor <;> (rintro rfl; cases ordinary)
  rw [makeDirectory, usable, startOf_eq denotes]
  rcases creationPieces_cases denotes with ⟨dot, front, pieces, steps⟩ | ⟨dot, front, pieces, steps⟩
  · have made := bind_walk tree _ steps (fun other member => denotes.ordinary other (by simp [member]))
      clear.above (tree.makeIn name)
    simp only [dot, Bool.false_eq_true, if_false]
    rw [← made, pieces, List.getLast?_concat, List.dropLast_concat]
    simp only [named, Bool.false_eq_true, if_false]
    rfl
  · have made := bind_walk tree _ steps denotes.ordinary clear
      fun _ => (.error .alreadyExists : Except IoError FileTree)
    simp only [dot, if_true]
    rw [← made, pieces, List.getLast?_concat, List.dropLast_concat]
    rfl

end BuildHook.FileTree
