import BuildHook.Proofs.FileTree.Walk
import BuildHook.Proofs.Procedure.Interference

/-!
# Making directories

A directory is made call by call, with all that is missing above it, while others make directories
above it, too, and put things beside it. Whatever they do before each call, it fails or succeeds as
the view of its names told before the first one; and every call leaves alone what lies beside it.

## Main results

`ensures_ofPath` says what comes of making the directory that a straight path names.
-/

namespace BuildHook.FileTree

open BuildHook.Path

/-- The way along names from every origin has only grown. -/
def Grows (names : List (List Char)) (tree after : FileTree) : Prop :=
  ∀ origin, Entry.Grows names (tree.atOrigin origin) (after.atOrigin origin)

/-- The way along names from every origin is spared. -/
def Spares (names : List (List Char)) (tree after : FileTree) : Prop :=
  ∀ origin, Entry.Spares names (tree.atOrigin origin) (after.atOrigin origin)

/-- All ways beside the one along names are spared: those that neither end on it nor lead on from its
end. -/
def SparesBeside (names : List (List Char)) (tree after : FileTree) : Prop :=
  ∀ other, ¬ other <+: names → ¬ names <+: other → Spares other tree after

/-- The way along names below the directory to which climbing leads is open: no symbolic link stands
on it. -/
structure IsOpen (origin : Origin) (levels : Nat) (names : List (List Char)) (top : Origin)
    (tree : FileTree) : Prop where
  climbed : tree.climb origin levels = .ok top
  plain : (tree.atOrigin top).find names ≠ .error .tooManyLinks

variable {tree after last : FileTree} {top : Origin} {names above : List (List Char)}
  {name : List Char} {origin : Origin} {levels : Nat}

/-- No names lead above themselves. -/
theorem not_above_itself (above : List (List Char)) (name : List Char) :
    ¬ above ++ [name] <+: above := by
  intro inside
  have length := inside.length_le
  rw [List.length_append, List.length_singleton] at length
  omega

/-- Climbing depends on the directories at the origins alone. -/
theorem climb_congr (same : ∀ origin, (after.atOrigin origin).isDirectory
      = (tree.atOrigin origin).isDirectory) (origin : Origin) (levels : Nat) :
    after.climb origin levels = tree.climb origin levels := by
  induction levels generalizing origin with
  | zero => rfl
  | succ levels ih => simp only [climb, same, ih]

namespace Grows

theorem refl (names : List (List Char)) (tree : FileTree) : Grows names tree tree :=
  fun _ => .refl _ _

theorem trans (first : Grows names tree after) (second : Grows names after last) :
    Grows names tree last := fun origin => (first origin).trans (second origin)

theorem climb (grows : Grows names tree after) (origin : Origin) (levels : Nat) :
    after.climb origin levels = tree.climb origin levels :=
  climb_congr (fun origin => (grows origin).isDirectory) origin levels

end Grows

namespace Spares

theorem refl (names : List (List Char)) (tree : FileTree) : Spares names tree tree :=
  fun _ => .refl _ _

theorem trans (first : Spares names tree after) (second : Spares names after last) :
    Spares names tree last := fun origin => (first origin).trans (second origin)

theorem grows (spares : Spares names tree after) : Grows names tree after :=
  fun origin => (spares origin).grows

end Spares

theorem SparesBeside.refl (names : List (List Char)) (tree : FileTree) :
    SparesBeside names tree tree := fun _ _ _ => .refl _ _

/-- An open way stays open while it grows. -/
theorem IsOpen.grows (isOpen : IsOpen origin levels names top tree)
    (grows : Grows names tree after) : IsOpen origin levels names top after where
  climbed := (grows.climb _ _).trans isOpen.climbed
  plain := by
    rw [ne_eq, Entry.find_tooManyLinks_iff, (grows top).prospect, ← Entry.find_tooManyLinks_iff]
    exact isOpen.plain

theorem IsOpen.clear (isOpen : IsOpen origin levels names top tree) (inside : above <+: names) :
    tree.Clear origin levels above := by
  obtain ⟨more, rfl⟩ := inside
  have whole : tree.Clear origin levels (above ++ more) := by
    intro other climbed
    obtain rfl := Except.ok.inj (isOpen.climbed.symm.trans climbed)
    exact isOpen.plain
  exact whole.above

/-- Putting something somewhere changes what stands at that origin. -/
theorem atOrigin_put (tree : FileTree) (location : Location) (new : Entry) (origin : Origin) :
    (tree.put location new).atOrigin origin
      = if origin = location.origin then (tree.atOrigin origin).put location.names new
        else tree.atOrigin origin := by
  unfold put
  split
  · next same =>
    subst same
    simp [atOrigin]
  · next different =>
    have kept : (tree.origins.filter fun other => other.1 != location.origin).find?
        (fun entry => entry.1 == origin) = tree.origins.find? fun entry => entry.1 == origin := by
      rw [List.find?_filter]
      congr 1
      funext entry
      by_cases he : entry.1 = origin <;> simp [he, different]
    simp [atOrigin, kept, Ne.symm different]

/-- Something is done at one origin as far as it is done to what stands there. -/
theorem spares_put {location : Location} {new : Entry} {other : List (List Char)}
    (spares : Entry.Spares other (tree.atOrigin location.origin)
      ((tree.atOrigin location.origin).put location.names new)) :
    Spares other tree (tree.put location new) := by
  intro origin
  rw [atOrigin_put]
  split
  · next same => exact same ▸ spares
  · exact .refl _ _

section Vacant

variable {inner : Entry} (found : (tree.atOrigin top).find above = .ok inner)
  (directory : inner.isDirectory = true) (vacant : inner.child? name = none)

include found directory vacant

/-- A directory that is made where none is lets the ways along it grow. -/
theorem grows_put_vacant {other : List (List Char)}
    (only : other <+: above ++ [name] → other = above ++ [name]) :
    Grows other tree (tree.put ⟨top, above ++ [name]⟩ .emptyDirectory) := by
  intro origin
  rw [atOrigin_put]
  split
  · next same => exact same ▸ (Entry.spares_put_vacant found directory vacant).1 only
  · exact .refl _ _

/-- A directory that is made where none is spares all ways that do not end on the way to it. -/
theorem spares_put_vacant {other : List (List Char)} (outside : ¬ other <+: above ++ [name]) :
    Spares other tree (tree.put ⟨top, above ++ [name]⟩ .emptyDirectory) := by
  obtain ⟨grows, leads⟩ := @Entry.spares_put_vacant _ _ _ other _ found directory vacant
  exact spares_put ⟨grows fun inside => absurd inside outside, leads outside⟩

end Vacant

theorem below_ok {entry inner : Entry} {location : Location}
    (reached : below entry top names = .ok (location, inner)) :
    location = ⟨top, names⟩ ∧ entry.find names = .ok inner ∧ inner.isDirectory = true := by
  unfold below at reached
  cases hf : entry.find names with
  | error cause => rw [hf] at reached; cases reached
  | ok inner' =>
    rw [hf] at reached
    simp only [Except.bind] at reached
    split at reached
    · next directory =>
      cases reached
      exact ⟨rfl, rfl, directory⟩
    · cases reached

theorem below_of_find {entry inner : Entry} (found : entry.find names = .ok inner)
    (directory : inner.isDirectory = true) : below entry top names = .ok (⟨top, names⟩, inner) := by
  rw [below, found]
  simp [Except.bind, directory]

theorem below_notFound {entry : Entry} (missing : below entry top names = .error .notFound) :
    entry.find names = .error .notFound := by
  unfold below at missing
  cases hf : entry.find names with
  | error cause =>
    rw [hf] at missing
    cases missing
    rfl
  | ok inner =>
    rw [hf] at missing
    simp only [Except.bind] at missing
    split at missing <;> cases missing

/-- What stands in the way above is in the way of everything below. -/
theorem below_error {entry : Entry} {cause : IoError}
    (blocked : below entry top above = .error cause) (there : cause ≠ .notFound) :
    entry.prospect (above ++ [name]) = .error cause := by
  unfold below at blocked
  rw [Entry.prospect_append_singleton]
  cases hf : entry.find above with
  | error cause' =>
    rw [hf] at blocked
    cases blocked
    obtain ⟨view, other⟩ := Entry.prospect_of_error hf there
    rw [view]
    exact congrArg Except.error (if_neg other)
  | ok inner =>
    rw [hf] at blocked
    rw [Entry.prospect_of_find hf]
    cases inner with
    | directory entries => cases blocked
    | _ =>
      cases blocked
      rfl

/-- What is answered when a directory is made, by what would stand there and by whether there is
something: if `.` stands behind its name, it must be there already. -/
def verdict (dotted : Bool) (view : Except IoError Contents) (there : Bool) :
    Except IoError Unit :=
  match view with
  | .error cause =>
    .error (if dotted = true ∧ cause = .alreadyExists then .notADirectory else cause)
  | .ok _ => if dotted = true ∧ there = false then .error .notFound else .ok ()

/-- Whether a directory is there tells what is answered where it cannot be made itself. -/
theorem answer_of_below {entry : Entry}
    (vacant : entry.find names = .error .notFound → entry.prospect names = .ok []) :
    (below entry top names).map (fun _ => ())
      = verdict true (entry.prospect names) (entry.leads names) := by
  unfold below Entry.leads
  cases hf : entry.find names with
  | ok inner =>
    rw [Entry.prospect_of_find hf]
    cases inner <;> rfl
  | error cause =>
    by_cases missing : cause = .notFound
    · subst missing
      rw [vacant hf]
      rfl
    · obtain ⟨view, different⟩ := Entry.prospect_of_error hf missing
      rw [view]
      simp [verdict, different, Except.bind, Except.map]

/-- A directory is there exactly where it is found behind a name with `.`, too. -/
theorem isOk_below {entry : Entry} :
    (below entry top names).isOk
      = (verdict true (entry.prospect names) (entry.leads names)).isOk := by
  unfold below Entry.leads
  cases hf : entry.find names with
  | ok inner =>
    rw [Entry.prospect_of_find hf]
    cases inner <;> rfl
  | error cause => cases entry.prospect names <;> rfl

/-- Whether a path leads to a directory. -/
theorem isDirectory_of_denotes {path : String} {absolute : Bool}
    (denotes : Denotes path absolute levels names) (usable : checkPath path = .ok ())
    (clear : tree.Clear (originOf absolute) levels names)
    (climbed : tree.climb (originOf absolute) levels = .ok top) :
    tree.isDirectory path = (below (tree.atOrigin top) top names).isOk := by
  have reached := directory_of_denotes denotes usable clear
  rw [climbed] at reached
  have same : tree.isDirectory path = ((tree.directory path).map tree.spot).isOk := by
    unfold isDirectory
    cases tree.directory path <;> rfl
  rw [same, reached]
  rfl

/-- What one call comes to that makes a directory: it is made, or the one above it is missing, or
something is in the way, or it is there already. -/
inductive Made (top : Origin) (above : List (List Char)) (name : List Char) (tree : FileTree) :
    Except IoError Unit → FileTree → Prop
  | made {inner} (found : (tree.atOrigin top).find above = .ok inner)
      (directory : inner.isDirectory = true) (short : ¬ maxName < byteLength name)
      (vacant : inner.child? name = none) :
      Made top above name tree (.ok ()) (tree.put ⟨top, above ++ [name]⟩ .emptyDirectory)
  | missing (missing : (tree.atOrigin top).find above = .error .notFound) :
      Made top above name tree (.error .notFound) tree
  | blocked {cause} (there : cause ≠ .notFound)
      (seen : (tree.atOrigin top).prospect (above ++ [name]) = .error cause) :
      Made top above name tree (.error cause) tree
  | stands {entries} (found : (tree.atOrigin top).find (above ++ [name]) = .ok (.directory entries)) :
      Made top above name tree (.error .alreadyExists) tree

/-- Where the directory above is there, it is not missing. -/
theorem Made.complete {answer : Except IoError Unit} {inner : Entry}
    (made : Made top above name tree answer after)
    (there : (tree.atOrigin top).find above = .ok inner) : answer ≠ .error .notFound := by
  cases made with
  | made => nofun
  | missing missing =>
    rw [there] at missing
    cases missing
  | blocked there => exact fun same => there (Except.error.inj same)
  | stands => exact fun same => nomatch same

/-- What has come of making a directory to which names lead, and those above it, while others spared
a way that leads to it or on from it. -/
structure Makes (way names : List (List Char)) (top : Origin) (tree : FileTree)
    (answer : Except IoError Unit) (after : FileTree) : Prop where
  grows : Grows way tree after
  spares : names ≠ way → Spares way tree after
  answered : answer = ((tree.atOrigin top).prospect names).map fun _ => ()
  there : answer = .ok () → ∃ entries, (after.atOrigin top).find names = .ok (.directory entries)

/-- What has come of making a directory, with `.` behind its name or not. -/
structure Ensures (dotted : Bool) (names : List (List Char)) (top : Origin) (tree : FileTree)
    (answer : Except IoError Unit) (after : FileTree) : Prop where
  grows : Grows names tree after
  answered : answer
    = verdict dotted ((tree.atOrigin top).prospect names) ((tree.atOrigin top).leads names)
  leads : (after.atOrigin top).leads names = (answer.isOk || (tree.atOrigin top).leads names)

/-- What has come of making a directory has come of it since before others spared the way. -/
theorem Makes.since {way : List (List Char)} {now : FileTree} {answer : Except IoError Unit}
    (makes : Makes way names top now answer after) (inside : names <+: way)
    (others : Spares way tree now) : Makes way names top tree answer after where
  grows := others.grows.trans makes.grows
  spares different := others.trans (makes.spares different)
  answered := makes.answered.trans ((others.grows top).room inside)
  there := makes.there

theorem Ensures.since {dotted : Bool} {now : FileTree} {answer : Except IoError Unit}
    (ensures : Ensures dotted names top now answer after) (others : Spares names tree now) :
    Ensures dotted names top tree answer after where
  grows := others.grows.trans ensures.grows
  answered := by rw [ensures.answered, (others top).grows.prospect, (others top).leads]
  leads := by rw [ensures.leads, (others top).leads]

theorem Makes.ensures {answer : Except IoError Unit}
    (makes : Makes names names top tree answer after) :
    Ensures false names top tree answer after where
  grows := makes.grows
  answered := by
    rw [makes.answered]
    cases (tree.atOrigin top).prospect names <;> rfl
  leads := by
    cases ha : answer with
    | ok done =>
      obtain ⟨entries, found⟩ := makes.there ha
      rw [Entry.leads, found]
      rfl
    | error cause =>
      have answered := makes.answered
      have same := (makes.grows top).prospect
      rw [ha] at answered
      cases hp : (tree.atOrigin top).prospect names with
      | ok entries =>
        rw [hp] at answered
        cases answered
      | error cause' =>
        rw [Entry.leads_of_prospect_error hp, Entry.leads_of_prospect_error (same.trans hp)]
        rfl

/-- The making of a directory comes to something while others spare the way along names, and each of
its calls spares all ways beside this one. -/
abbrev Comes (way : List (List Char)) (post : Except IoError Unit → FileTree → Prop)
    (creation : Creation) (tree : FileTree) : Prop :=
  creation.Withstands (Spares way) (SparesBeside way) perform post tree

section Ensure

variable {path : String} {absolute : Bool} {way : List (List Char)}

/-- What comes of making a directory in one that is there. -/
theorem made_makeIn {entries : Contents}
    (found : (tree.atOrigin top).find above = .ok (.directory entries))
    (plain : (tree.atOrigin top).find (above ++ [name]) ≠ .error .tooManyLinks) :
    Made top above name tree
      (tree.attempt (tree.makeIn name (⟨top, above⟩, .directory entries))).1
      (tree.attempt (tree.makeIn name (⟨top, above⟩, .directory entries))).2 := by
  have behind : (tree.atOrigin top).find (above ++ [name])
      = (Entry.directory entries).find [name] := by
    rw [Entry.find_append, found]
    rfl
  have view : (tree.atOrigin top).prospect (above ++ [name])
      = (Entry.directory entries).prospect [name] := by
    rw [Entry.prospect_append_singleton, Entry.prospect_of_find found]
    rfl
  rw [Entry.find_cons] at behind
  rw [Entry.prospect_cons] at view
  simp only [makeIn]
  by_cases long : maxName < byteLength name
  · rw [if_pos long]
    refine .blocked (by decide) ?_
    rw [view, Entry.enter, if_neg (by simp [Entry.isDirectory]), if_pos long]
    rfl
  · rw [if_neg long]
    cases hc : (Entry.directory entries).child? name with
    | none => exact .made found rfl long hc
    | some child =>
      have entered (plain : ∀ target, child ≠ .link target) :=
        Entry.enter_of_child rfl long hc fun target same => plain target (Option.some.inj same)
      cases child with
      | directory inside =>
        rw [entered (by simp)] at behind
        exact .stands behind
      | file content =>
        rw [entered (by simp)] at view
        exact .blocked (by decide) view
      | link target =>
        rw [Entry.enter_of_link rfl long hc] at behind
        exact absurd behind plain

/-- What one call comes to for a directory behind whose name no `.` stands. -/
theorem made_of_plain (denotes : Denotes path absolute levels (above ++ [name]))
    (usable : checkPath path = .ok ()) (plain : endsInDot path = false)
    (isOpen : IsOpen (originOf absolute) levels (above ++ [name]) top tree) :
    Made top above name tree (perform (.make path) tree).1 (perform (.make path) tree).2 := by
  have made := makeDirectory_of_denotes denotes usable (isOpen.clear (List.prefix_refl _))
  rw [isOpen.climbed, plain] at made
  simp only [Except.bind, Bool.false_eq_true, if_false] at made
  rw [perform, made]
  cases hb : below (tree.atOrigin top) top above with
  | error cause =>
    by_cases missing : cause = .notFound
    · subst missing
      exact .missing (below_notFound hb)
    · exact .blocked missing (below_error hb missing)
  | ok reached =>
    obtain ⟨location, inner⟩ := reached
    obtain ⟨rfl, found, directory⟩ := below_ok hb
    obtain ⟨entries, rfl⟩ := Entry.exists_eq_directory directory
    exact made_makeIn found isOpen.plain

section Plain

variable (denotes : Denotes path absolute levels (above ++ [name]))
  (usable : checkPath path = .ok ()) (inside : above ++ [name] <+: way)

include denotes usable inside

/-- What stands in the way, or there already, decides what comes of making a directory. -/
theorem comes_settle (isOpen : IsOpen (originOf absolute) levels way top tree) {cause : IoError}
    (seen : (tree.atOrigin top).prospect (above ++ [name]) = .error cause
      ∨ ∃ entries, (tree.atOrigin top).find (above ++ [name]) = .ok (.directory entries)) :
    Comes way (Makes way (above ++ [name]) top tree) (Creation.settle path (.error cause)) tree := by
  intro now others
  refine ⟨.refl _ _, ?_⟩
  have isOpen' := isOpen.grows others.grows
  have found := isDirectory_of_denotes denotes usable (isOpen'.clear inside) isOpen'.climbed
  show Makes way _ top tree (if now.isDirectory path = true then _ else _) now
  have room := (others.grows top).room inside
  rcases seen with blocked | ⟨entries, stands⟩
  · have absent : now.isDirectory path = false := by
      rw [found]
      cases hb : below (now.atOrigin top) top (above ++ [name]) with
      | error cause => rfl
      | ok reached =>
        obtain ⟨location, inner⟩ := reached
        obtain ⟨-, there, directory⟩ := below_ok hb
        obtain ⟨entries, rfl⟩ := Entry.exists_eq_directory directory
        rw [Entry.prospect_of_find there, blocked] at room
        cases room
    rw [absent]
    exact ⟨others.grows, fun _ => others, by rw [blocked]; rfl, nofun⟩
  · obtain ⟨inner, there, directory⟩ := (others.grows top).stays inside stands
    rw [below_of_find there directory] at found
    obtain ⟨entries', rfl⟩ := Entry.exists_eq_directory directory
    have found : now.isDirectory path = true := found
    rw [found, if_pos rfl]
    refine ⟨others.grows, fun _ => others, ?_, fun _ => ⟨entries', there⟩⟩
    rw [Entry.prospect_of_find stands]
    rfl

/-- What comes of a call that makes a directory where nothing above it is missing. -/
theorem comes_made (isOpen : IsOpen (originOf absolute) levels way top tree)
    {answer : Except IoError Unit} (made : Made top above name tree answer after)
    (complete : answer ≠ .error .notFound) :
    SparesBeside way tree after
    ∧ Comes way (Makes way (above ++ [name]) top tree) (Creation.settle path answer) after := by
  cases made with
  | @made inner found directory short vacant =>
    refine ⟨fun other outside beyond => ?_, ?_, fun different => ?_, ?_, fun _ => ?_⟩
    · exact spares_put_vacant found directory vacant fun h => outside (h.trans inside)
    · apply grows_put_vacant found directory vacant
      exact fun h => h.eq_of_length_le inside.length_le
    · apply spares_put_vacant found directory vacant
      exact fun h => different (inside.eq_of_length_le h.length_le)
    · obtain ⟨entries, rfl⟩ := Entry.exists_eq_directory directory
      rw [Entry.prospect_append_singleton, Entry.prospect_of_find found]
      show _ = Except.map _ ((Entry.directory entries).prospect [name])
      rw [Entry.prospect_cons, Entry.enter_of_child directory short vacant fun _ => nofun]
      rfl
    · rw [atOrigin_put, if_pos rfl]
      exact ⟨[], Entry.find_put_in found directory short fun _ => nofun⟩
  | missing => exact absurd rfl complete
  | blocked there seen => exact ⟨.refl _ _, comes_settle denotes usable inside isOpen (.inl seen)⟩
  | @stands entries found =>
    exact ⟨.refl _ _, comes_settle denotes usable inside isOpen (.inr ⟨entries, found⟩)⟩

/-- Once those above it have been made, so is a directory, unless something is in the way. -/
theorem comes_finish (plain : endsInDot path = false)
    (isOpen : IsOpen (originOf absolute) levels way top tree)
    {entries : Contents} (there : (tree.atOrigin top).find above = .ok (.directory entries)) :
    Comes way (Makes way (above ++ [name]) top tree) (Creation.finish path (.ok ())) tree := by
  intro now others
  have isOpen' := isOpen.grows others.grows
  have made := made_of_plain denotes usable plain
    ⟨isOpen'.climbed, isOpen'.clear inside top isOpen'.climbed⟩
  have above_inside : above <+: way := (List.prefix_append _ _).trans inside
  obtain ⟨inner, still, -⟩ := (others.grows top).stays above_inside there
  obtain ⟨kept, comes⟩ := comes_made denotes usable inside isOpen' made (made.complete still)
  exact ⟨kept, comes.mono fun answer last makes => makes.since inside others⟩

/-- What comes of going on after the first call that makes a directory. -/
theorem comes_goOn (plain : endsInDot path = false)
    (isOpen : IsOpen (originOf absolute) levels way top tree) {creation : Creation}
    (makes : above ≠ [] → Comes way (Makes way above top tree) creation tree)
    {answer : Except IoError Unit} (made : Made top above name tree answer after) :
    SparesBeside way tree after
    ∧ Comes way (Makes way (above ++ [name]) top tree) (Creation.goOn path creation answer)
      after := by
  by_cases complete : answer = .error .notFound
  · cases made with
    | missing missing =>
      refine ⟨.refl _ _, ?_⟩
      have nested : above ≠ [] := by
        rintro rfl
        cases missing
      refine (makes nested).andThen fun answer after reached => ?_
      have above_way : above ≠ way := by
        rintro rfl
        exact not_above_itself above name inside
      have spares := reached.spares above_way
      cases answer with
      | ok done =>
        -- now everything above is there
        obtain ⟨entries, there⟩ := reached.there rfl
        exact (comes_finish denotes usable inside plain (isOpen.grows reached.grows) there).mono
          fun _ _ makes => makes.since inside spares
      | error cause =>
        refine ⟨reached.grows, fun _ => spares, ?_, nofun⟩
        have answered := reached.answered
        rw [Entry.prospect_append_singleton]
        rcases Entry.prospect_of_notFound missing with view | view
        · rw [view] at answered
          cases answered
        · rw [view] at answered ⊢
          rw [answered]
          rfl
    | blocked there => exact absurd (Except.error.inj complete) there
    | _ => cases complete
  · obtain ⟨kept, comes⟩ := comes_made denotes usable inside isOpen made complete
    refine ⟨kept, ?_⟩
    cases answer with
    | ok done => exact comes
    | error cause =>
      have other : cause ≠ .notFound := fun same => complete (congrArg _ same)
      rwa [Creation.goOn, if_neg other]

/-- What comes of making a directory and what is missing above it. -/
theorem comes_ensure (plain : endsInDot path = false)
    (isOpen : IsOpen (originOf absolute) levels way top tree) {creation : Creation}
    (makes : above ≠ [] → ∀ now, IsOpen (originOf absolute) levels way top now →
      Comes way (Makes way above top now) creation now) :
    Comes way (Makes way (above ++ [name]) top tree) (Creation.ensure path creation) tree := by
  intro now others
  have isOpen' := isOpen.grows others.grows
  have made := made_of_plain denotes usable plain
    ⟨isOpen'.climbed, isOpen'.clear inside top isOpen'.climbed⟩
  obtain ⟨kept, comes⟩ := comes_goOn denotes usable inside plain isOpen'
    (fun nested => makes nested now isOpen') made
  exact ⟨kept, comes.mono fun answer last makes => makes.since inside others⟩

end Plain

section Dotted

variable (denotes : Denotes path absolute levels (above ++ [name]))
  (usable : checkPath path = .ok ()) (dotted : endsInDot path = true)
  (isOpen : IsOpen (originOf absolute) levels (above ++ [name]) top tree)

include denotes usable isOpen

/-- Behind a name with `.` a directory is found if it is there, whatever else was answered first. -/
theorem comes_settle_dotted {cause : IoError}
    (answered : verdict true ((tree.atOrigin top).prospect (above ++ [name]))
        ((tree.atOrigin top).leads (above ++ [name])) = .ok ()
      ∨ verdict true ((tree.atOrigin top).prospect (above ++ [name]))
        ((tree.atOrigin top).leads (above ++ [name])) = .error cause) :
    Comes (above ++ [name]) (Ensures true (above ++ [name]) top tree)
      (Creation.settle path (.error cause)) tree := by
  intro now others
  refine ⟨.refl _ _, ?_⟩
  have isOpen' := isOpen.grows others.grows
  have found := isDirectory_of_denotes denotes usable (isOpen'.clear (List.prefix_refl _))
    isOpen'.climbed
  rw [isOk_below, (others top).grows.prospect, (others top).leads] at found
  show Ensures true _ top tree (if now.isDirectory path = true then _ else _) now
  rw [found]
  refine ⟨others.grows, ?_, ?_⟩
  · rcases answered with same | same <;> rw [same] <;> rfl
  · rw [(others top).leads]
    rcases answered with same | same
    · rw [same]
      unfold verdict at same
      cases hl : (tree.atOrigin top).leads (above ++ [name]) with
      | true => rfl
      | false =>
        rw [hl] at same
        split at same <;> cases same
    · rw [same]
      rfl

include dotted

/-- Behind a name with `.` a directory is found, but never made. -/
theorem perform_make_dotted :
    perform (.make path) tree
      = ((below (tree.atOrigin top) top (above ++ [name])).bind fun _ => .error .alreadyExists,
        tree) := by
  have made := makeDirectory_of_denotes denotes usable (isOpen.clear (List.prefix_refl _))
  rw [isOpen.climbed, dotted] at made
  simp only [Except.bind, if_true] at made
  rw [perform, made]
  cases below (tree.atOrigin top) top (above ++ [name]) <;> rfl

/-- What is answered for a directory behind whose name `.` stands where nothing above it is
missing. -/
theorem comes_make_dotted
    (vacant : (tree.atOrigin top).find (above ++ [name]) = .error .notFound →
      (tree.atOrigin top).prospect (above ++ [name]) = .ok []) :
    Comes (above ++ [name]) (Ensures true (above ++ [name]) top tree)
      (Creation.settle path (perform (.make path) tree).1) tree := by
  have answered := @answer_of_below top _ _ vacant
  rw [perform_make_dotted denotes usable dotted isOpen]
  cases hb : below (tree.atOrigin top) top (above ++ [name]) with
  | ok reached =>
    rw [hb] at answered
    exact comes_settle_dotted denotes usable isOpen (.inl answered.symm)
  | error cause =>
    rw [hb] at answered
    exact comes_settle_dotted denotes usable isOpen (.inr answered.symm)

/-- What is missing above a directory behind whose name `.` stands is made, but the directory itself
is not. -/
theorem comes_above_dotted {creation : Creation}
    (missing : (tree.atOrigin top).find (above ++ [name]) = .error .notFound)
    (makes : Comes (above ++ [name]) (Makes (above ++ [name]) above top tree) creation tree) :
    Comes (above ++ [name]) (Ensures true (above ++ [name]) top tree)
      (creation.andThen (Creation.finish path)) tree := by
  refine makes.andThen fun answer after reached => ?_
  have above_way : above ≠ above ++ [name] := by simp
  have spares := reached.spares above_way
  have absent : (tree.atOrigin top).leads (above ++ [name]) = false := by
    rw [Entry.leads, missing]
    rfl
  cases answer with
  | error cause =>
    refine ⟨reached.grows, ?_, (spares top).leads⟩
    have answered := reached.answered
    cases hp : (tree.atOrigin top).prospect above with
    | ok entries =>
      rw [hp] at answered
      cases answered
    | error cause' =>
      obtain rfl := Entry.nameTooLong_of_notFound missing hp
      rw [hp] at answered
      cases answered
      rw [Entry.prospect_append_singleton, hp]
      rfl
  | ok done =>
    obtain ⟨entries, there⟩ := reached.there rfl
    intro now others
    have isOpen' := isOpen.grows (reached.grows.trans others.grows)
    obtain ⟨inner, still, -⟩ := (others.grows top).stays (List.prefix_append _ _) there
    have comes := comes_make_dotted denotes usable dotted isOpen'
      (Entry.prospect_of_last_notFound name still)
    rw [perform_make_dotted denotes usable dotted isOpen'] at comes ⊢
    exact ⟨.refl _ _, comes.mono fun _ _ ensures => ensures.since (spares.trans others)⟩

/-- What comes of making a directory behind whose name `.` stands: it must be there already, and
only those above it can be made. -/
theorem comes_ensure_dotted {creation : Creation}
    (makes : ∀ now, IsOpen (originOf absolute) levels (above ++ [name]) top now →
      (now.atOrigin top).isDirectory = true →
      Comes (above ++ [name]) (Makes (above ++ [name]) above top now) creation now) :
    Comes (above ++ [name]) (Ensures true (above ++ [name]) top tree)
      (Creation.ensure path creation) tree := by
  intro now others
  have isOpen' := isOpen.grows others.grows
  have made := perform_make_dotted denotes usable dotted isOpen'
  suffices comes : Comes (above ++ [name]) (Ensures true (above ++ [name]) top now)
      (Creation.goOn path creation (perform (.make path) now).1) now by
    rw [made] at comes ⊢
    exact ⟨.refl _ _, comes.mono fun _ _ ensures => ensures.since others⟩
  by_cases missing : (now.atOrigin top).find (above ++ [name]) = .error .notFound
  · have answer : (perform (.make path) now).1 = Except.error IoError.notFound := by
      rw [made, below, missing]
      rfl
    rw [answer]
    exact comes_above_dotted denotes usable dotted isOpen' missing
      (makes now isOpen' (Entry.isDirectory_of_notFound missing))
  · have comes := comes_make_dotted denotes usable dotted isOpen' fun absent => absurd absent missing
    rw [made] at comes ⊢
    cases hb : below (now.atOrigin top) top (above ++ [name]) with
    | ok reached =>
      rw [hb] at comes
      exact comes
    | error cause =>
      rw [hb] at comes
      have other : cause ≠ .notFound := fun same => missing (below_notFound (same ▸ hb))
      show Comes _ _ (Creation.goOn path creation (.error cause)) now
      rwa [Creation.goOn, if_neg other]

end Dotted

end Ensure

section Lead

variable {path : String} {absolute : Bool}

/-- A path that leads up only names a directory that is there, if it names any. -/
theorem makeDirectory_of_rising (tree : FileTree) (denotes : Denotes path absolute levels [])
    (usable : checkPath path = .ok ()) :
    ∃ cause, tree.makeDirectory path = .error cause ∧ cause ≠ .notFound := by
  have steps := (stepsOf_creationPieces path).trans denotes.steps
  rw [List.append_nil] at steps
  rcases List.eq_nil_or_concat (creationPieces path) with empty | ⟨front, last, split⟩
  · refine ⟨.alreadyExists, ?_, by decide⟩
    rw [makeDirectory, usable, empty]
    rfl
  · rw [List.concat_eq_append] at split
    rw [split, stepsOf_append, List.append_eq_replicate_iff] at steps
    obtain ⟨-, rising, last_step⟩ := steps
    have some_char : last ≠ [] := getLast_creationPieces_ne_nil (by rw [split]; simp)
    have dots : (decide (last = ['.']) || decide (last = ['.', '.'])) = true := by
      rw [stepsOf_cons] at last_step
      cases hi : isIdle last with
      | true =>
        have dot : last = ['.'] := by simpa [isIdle, some_char] using hi
        rw [dot]
        rfl
      | false =>
        rw [hi] at last_step
        have two : last = ['.', '.'] := by simpa [stepsOf, up] using last_step
        rw [two]
        rfl
    have no_names : stepsOf front = List.replicate (stepsOf front).length up ++ [] := by
      rw [List.append_nil]
      exact rising
    have made := bind_walk tree (originOf absolute) no_names (by simp)
      (by simp [Clear, Entry.find]) fun _ => (.error .alreadyExists : Except IoError FileTree)
    have result : tree.makeDirectory path
        = (tree.climb (originOf absolute) (stepsOf front).length).bind fun top =>
          (below (tree.atOrigin top) top []).bind fun _ => .error .alreadyExists := by
      rw [← made, makeDirectory, usable, startOf_eq denotes, split]
      simp only [List.getLast?_concat, List.dropLast_concat, dots, if_true]
      rfl
    rw [result]
    cases hc : tree.climb (originOf absolute) (stepsOf front).length with
    | error cause =>
      obtain rfl := climb_error hc
      exact ⟨.notADirectory, rfl, by decide⟩
    | ok top =>
      cases hd : (tree.atOrigin top).isDirectory with
      | true => exact ⟨.alreadyExists, by simp [below, Entry.find, Except.bind, hd], by decide⟩
      | false => exact ⟨.notADirectory, by simp [below, Entry.find, Except.bind, hd], by decide⟩

end Lead

/-- The path above another one that its components name does not end in `.`. -/
theorem endsInDot_ofComponents {path : String} {front : List Component}
    (above : front ++ [.normal name] <+: components path) :
    endsInDot (ofComponents (front ++ [.normal name])) = false := by
  have ordinary : IsOrdinary name := isOrdinary_of_mem (above.subset (by simp))
  have some_char : name.isEmpty = false := by simpa using ordinary.ne_nil
  have no_dot : name ≠ ['.'] := by
    rintro rfl
    cases ordinary
  have not_root : front ++ [.normal name] ≠ [.root] := by
    cases front <;> simp
  have texts := pieces_ofComponents above (by simp) not_root
  rw [endsInDot, creationPieces, texts]
  simp [Component.text, some_char, no_dot]

section Whole

variable {path : String} {lead : List Component}
  (whole : components path = lead ++ names.map Component.normal)
  (rising : ∀ c ∈ lead, c.isNormal = false) (usable : checkPath path = .ok ())
  (isOpen : IsOpen (originOf (isAbsolute path)) (lead.count .parent) names top tree)

include whole rising usable isOpen

/-- The directories above those of names are there. -/
theorem comes_lead (directory : (tree.atOrigin top).isDirectory = true) :
    Comes names (Makes names [] top tree) (Creation.all lead.reverse) tree := by
  have reached {now : FileTree} (others : Spares names tree now) :
      Makes names [] top tree (.ok ()) now := by
    obtain ⟨entries, stands⟩ := Entry.exists_eq_directory directory
    obtain ⟨entries', still⟩ :=
      Entry.exists_eq_directory ((others top).grows.isDirectory.trans directory)
    refine ⟨others.grows, fun _ => others, ?_, fun _ => ⟨entries', congrArg Except.ok still⟩⟩
    rw [stands]
    rfl
  rcases List.eq_nil_or_concat lead with rfl | ⟨front, last, split⟩
  · exact reached (.refl _ _)
  · rw [List.concat_eq_append] at split
    have inside : lead ++ [].map Component.normal <+: components path := by
      rw [whole]
      simp
    have some_component : lead ++ [].map Component.normal ≠ [] := by simp [split]
    have denotes := denotes_ofComponents inside some_component rising
    have usable' := checkPath_ofComponents inside some_component usable
    rw [List.map_nil, List.append_nil] at denotes usable'
    have reversed : lead.reverse = last :: front.reverse := by simp [split]
    rw [reversed, Creation.all, ← reversed, List.reverse_reverse]
    intro now others
    obtain ⟨cause, failed, there⟩ := makeDirectory_of_rising now denotes usable'
    rw [perform, failed, attempt, Creation.goOn, if_neg there]
    refine ⟨.refl _ _, fun later more => ⟨.refl _ _, ?_⟩⟩
    have spares := others.trans more
    have climbed := (isOpen.grows spares.grows).climbed
    have found := isDirectory_of_denotes denotes usable' (fun _ _ => nofun) climbed
    rw [below_of_find rfl ((spares top).grows.isDirectory.trans directory)] at found
    show Makes names [] top tree (if later.isDirectory _ = true then _ else _) later
    rw [found]
    exact reached spares

/-- What comes of making the directories above a straight path, from the lowest one on. -/
theorem comes_all {upward : List (List Char)} (some_name : upward ≠ [])
    (inside : upward.reverse <+: names) :
    Comes names (Makes names upward.reverse top tree)
      (Creation.all (upward.map Component.normal ++ lead.reverse)) tree := by
  induction upward generalizing tree with
  | nil => exact absurd rfl some_name
  | cons name upward ih =>
    rw [List.reverse_cons] at inside ⊢
    have reversed : ((name :: upward).map Component.normal ++ lead.reverse).reverse
        = lead ++ (upward.reverse ++ [name]).map Component.normal := by
      simp
    have above : lead ++ (upward.reverse ++ [name]).map Component.normal <+: components path := by
      rw [whole, List.prefix_append_right_inj]
      exact inside.map _
    have some_component : lead ++ (upward.reverse ++ [name]).map Component.normal ≠ [] := by simp
    have denotes := denotes_ofComponents above some_component rising
    have usable' := checkPath_ofComponents above some_component usable
    rw [List.map_cons, List.cons_append, Creation.all, ← List.cons_append, ← List.map_cons,
      reversed]
    apply comes_ensure denotes usable' inside ?_ isOpen
    · intro nested now isOpen'
      exact ih isOpen' (by simpa using nested) ((List.prefix_append _ _).trans inside)
    · have split : lead ++ (upward.reverse ++ [name]).map Component.normal
          = (lead ++ upward.reverse.map Component.normal) ++ [.normal name] := by simp
      rw [split] at above ⊢
      exact endsInDot_ofComponents above

/-- What comes of making the directory that a straight path names. -/
theorem ensures_ofPath (below_top : names ≠ []) :
    Comes names (Ensures (endsInDot path) names top tree) (Creation.ofPath path) tree := by
  obtain ⟨above, name, rfl⟩ : ∃ above name, names = above ++ [name] :=
    ⟨_, _, (List.dropLast_concat_getLast below_top).symm⟩
  have denotes := denotes_of_components whole rising
  have reversed : (components path).reverse
      = .normal name :: (above.reverse.map Component.normal ++ lead.reverse) := by
    simp [whole]
  have inside : above.reverse.reverse <+: above ++ [name] := by simp
  have all {now : FileTree}
      (isOpen : IsOpen (originOf (isAbsolute path)) (lead.count .parent) (above ++ [name]) top now)
      (nested : above ≠ []) :
      Comes (above ++ [name]) (Makes (above ++ [name]) above top now)
        (Creation.all (above.reverse.map Component.normal ++ lead.reverse)) now := by
    have comes := comes_all whole rising usable isOpen (by simpa using nested) inside
    rwa [List.reverse_reverse] at comes
  rw [Creation.ofPath, reversed]
  cases hd : endsInDot path with
  | false =>
    exact (comes_ensure denotes usable (List.prefix_refl _) hd isOpen
      fun nested now isOpen' => all isOpen' nested).mono fun _ _ makes => makes.ensures
  | true =>
    refine comes_ensure_dotted denotes usable hd isOpen fun now isOpen' directory => ?_
    by_cases nested : above = []
    · subst nested
      exact comes_lead whole rising usable isOpen' directory
    · exact all isOpen' nested

end Whole

end BuildHook.FileTree
