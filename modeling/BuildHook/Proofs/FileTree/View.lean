import BuildHook.FileTree

/-!
# Views of an entry

Where names lead from an entry, and what would stand there if everything missing on the way were
made. A symbolic link that stands on the way is in the way. What others make or put elsewhere changes
neither, as long as missing directories are all that they add to the way.

## Main results

`Grows` is what others may do to the way along names. `spares_put_vacant` says that making a missing
directory does no more than that, and `spares_put_apart` that putting anything elsewhere does not.
-/

namespace BuildHook

/-- What stands in a directory. -/
abbrev FileTree.Contents := List (List Char × Entry)

namespace Entry

open FileTree (Contents maxName byteLength)

/-- What a name leads to from an entry, if anything stands there. A symbolic link is not followed. -/
def enter (entry : Entry) (name : List Char) : Except IoError (Option Entry) :=
  if entry.isDirectory = false then .error .notADirectory
  else if maxName < byteLength name then .error .nameTooLong
  else
    match entry.child? name with
    | some (.link _) => .error .tooManyLinks
    | child => .ok child

/-- Where names lead. -/
def find : Entry → List (List Char) → Except IoError Entry
  | entry, [] => .ok entry
  | entry, name :: rest =>
    match entry.enter name with
    | .error cause => .error cause
    | .ok none => .error .notFound
    | .ok (some child) => child.find rest

/-- What would stand in the directory to which names lead, if every missing directory on the way
were made first. -/
def prospect : Entry → List (List Char) → Except IoError Contents
  | .directory entries, [] => .ok entries
  | _, [] => .error .alreadyExists
  | entry, name :: rest =>
    match entry.enter name with
    | .error cause => .error cause
    | .ok child => (child.getD emptyDirectory).prospect rest

/-- Whether there is something where names lead. -/
def leads (entry : Entry) (names : List (List Char)) : Bool := (entry.find names).isOk

variable {entry inner : Entry} {name : List Char} {rest names : List (List Char)} {cause : IoError}

theorem exists_eq_directory (directory : entry.isDirectory = true) :
    ∃ entries, entry = .directory entries := by
  cases entry with
  | directory entries => exact ⟨entries, rfl⟩
  | _ => cases directory

theorem enter_error (blocked : entry.enter name = .error cause) :
    cause ≠ .notFound ∧ cause ≠ .alreadyExists := by
  unfold enter at blocked
  split at blocked
  · cases blocked
    decide
  · split at blocked
    · cases blocked
      decide
    · split at blocked
      · cases blocked
        decide
      · cases blocked

theorem enter_ok {child : Option Entry} (entered : entry.enter name = .ok child) :
    entry.isDirectory = true ∧ ¬ maxName < byteLength name ∧ entry.child? name = child := by
  unfold enter at entered
  split at entered
  · cases entered
  · next directory =>
    split at entered
    · cases entered
    · next short =>
      split at entered
      · cases entered
      · exact ⟨by simpa using directory, short, Except.ok.inj entered⟩

/-- No name leads to a symbolic link. -/
theorem enter_plain {child : Option Entry} (entered : entry.enter name = .ok child)
    (target : String) : child ≠ some (.link target) := by
  rintro rfl
  have hc := (enter_ok entered).2.2
  unfold enter at entered
  rw [hc] at entered
  split at entered
  · cases entered
  · split at entered <;> cases entered

/-- In a directory there is whatever stands there, unless it is a symbolic link. -/
theorem enter_of_child {child : Option Entry} (directory : entry.isDirectory = true)
    (short : ¬ maxName < byteLength name) (hc : entry.child? name = child)
    (plain : ∀ target, child ≠ some (.link target)) : entry.enter name = .ok child := by
  unfold enter
  rw [directory, if_neg Bool.noConfusion, if_neg short, hc]
  split
  · next target => exact absurd rfl (plain target)
  · rfl

/-- A symbolic link in a directory is in the way. -/
theorem enter_of_link {target : String} (directory : entry.isDirectory = true)
    (short : ¬ maxName < byteLength name) (hc : entry.child? name = some (.link target)) :
    entry.enter name = .error .tooManyLinks := by
  rw [enter, directory, if_neg Bool.noConfusion, if_neg short, hc]

theorem find_cons (entry : Entry) (name : List Char) (rest : List (List Char)) :
    entry.find (name :: rest) = (entry.enter name).bind fun child =>
      child.elim (.error .notFound) fun child => child.find rest := by
  simp only [find]
  cases entry.enter name with
  | error cause => rfl
  | ok child => cases child <;> rfl

/-- What is found behind a name is found in what the name leads to. -/
theorem find_cons_ok (found : entry.find (name :: rest) = .ok inner) :
    ∃ child, entry.enter name = .ok (some child) ∧ child.find rest = .ok inner := by
  rw [find_cons] at found
  cases he : entry.enter name with
  | error cause =>
    rw [he] at found
    cases found
  | ok child =>
    rw [he] at found
    cases child with
    | none => cases found
    | some child => exact ⟨child, rfl, found⟩

theorem prospect_cons (entry : Entry) (name : List Char) (rest : List (List Char)) :
    entry.prospect (name :: rest) = (entry.enter name).bind fun child =>
      (child.getD emptyDirectory).prospect rest := by
  simp only [prospect]
  cases entry.enter name <;> rfl

theorem find_append (entry : Entry) (first second : List (List Char)) :
    entry.find (first ++ second) = (entry.find first).bind fun inner => inner.find second := by
  induction first generalizing entry with
  | nil => rfl
  | cons name rest ih =>
    rw [List.cons_append, find_cons, find_cons]
    cases entry.enter name with
    | error cause => rfl
    | ok child =>
      cases child with
      | none => rfl
      | some child => exact ih child

/-- What stands where names lead is what would stand there. -/
theorem prospect_of_find (found : entry.find names = .ok inner) :
    entry.prospect names = inner.prospect [] := by
  induction names generalizing entry with
  | nil =>
    cases found
    rfl
  | cons name rest ih =>
    obtain ⟨child, he, found⟩ := find_cons_ok found
    rw [prospect_cons, he]
    exact ih found

/-- In an empty directory names can only be too long. -/
theorem prospect_emptyDirectory (names : List (List Char)) :
    emptyDirectory.prospect names = .ok [] ∨ emptyDirectory.prospect names = .error .nameTooLong
    := by
  induction names with
  | nil => exact .inl rfl
  | cons name rest ih =>
    by_cases short : maxName < byteLength name
    · refine .inr ?_
      rw [prospect_cons, enter, if_neg (by decide), if_pos short]
      rfl
    · rw [prospect_cons, enter_of_child rfl short rfl (by simp [child?, emptyDirectory])]
      exact ih

/-- Where something is missing, nothing but too long a name stands in the way. -/
theorem prospect_of_notFound (missing : entry.find names = .error .notFound) :
    entry.prospect names = .ok [] ∨ entry.prospect names = .error .nameTooLong := by
  induction names generalizing entry with
  | nil => cases missing
  | cons name rest ih =>
    rw [find_cons] at missing
    rw [prospect_cons]
    cases he : entry.enter name with
    | error cause =>
      rw [he] at missing
      exact absurd (Except.error.inj missing) (enter_error he).1
    | ok child =>
      rw [he] at missing
      cases child with
      | none => exact prospect_emptyDirectory rest
      | some child => exact ih missing

/-- Something can be missing in a directory only. -/
theorem isDirectory_of_notFound (missing : entry.find names = .error .notFound) :
    entry.isDirectory = true := by
  cases names with
  | nil => cases missing
  | cons name rest =>
    rw [find_cons] at missing
    cases he : entry.enter name with
    | error cause =>
      rw [he] at missing
      exact absurd (Except.error.inj missing) (enter_error he).1
    | ok child => exact (enter_ok he).1

/-- What stands in the way is in the way of new directories, too. -/
theorem prospect_of_error (blocked : entry.find names = .error cause)
    (there : cause ≠ .notFound) :
    entry.prospect names = .error cause ∧ cause ≠ .alreadyExists := by
  induction names generalizing entry with
  | nil => cases blocked
  | cons name rest ih =>
    rw [find_cons] at blocked
    rw [prospect_cons]
    cases he : entry.enter name with
    | error cause =>
      rw [he] at blocked
      cases blocked
      exact ⟨rfl, (enter_error he).2⟩
    | ok child =>
      rw [he] at blocked
      cases child with
      | none => exact absurd (Except.error.inj blocked).symm there
      | some child => exact ih blocked

/-- A symbolic link in the way is in the way of new directories, too. -/
theorem find_tooManyLinks_iff :
    entry.find names = .error .tooManyLinks ↔ entry.prospect names = .error .tooManyLinks := by
  constructor
  · exact fun met => (prospect_of_error met (by decide)).1
  · intro met
    cases hf : entry.find names with
    | ok inner =>
      rw [prospect_of_find hf] at met
      cases inner <;> cases met
    | error cause =>
      by_cases missing : cause = .notFound
      · rcases prospect_of_notFound (missing ▸ hf) with view | view <;> rw [view] at met <;>
          cases met
      · rw [(prospect_of_error hf missing).1] at met
        rw [Except.error.inj met]

/-- Where no directory could be made, there is something exactly if that is what stands in the
way. -/
theorem leads_of_prospect_error (blocked : entry.prospect names = .error cause) :
    entry.leads names = decide (cause = .alreadyExists) := by
  unfold leads
  cases hf : entry.find names with
  | ok inner =>
    rw [prospect_of_find hf] at blocked
    cases inner with
    | directory entries => cases blocked
    | file content =>
      cases blocked
      rfl
    | link target =>
      cases blocked
      rfl
  | error other =>
    have different : cause ≠ .alreadyExists := by
      by_cases missing : other = .notFound
      · rcases prospect_of_notFound (missing ▸ hf) with view | view <;>
          rw [view] at blocked <;> cases blocked
        decide
      · obtain ⟨view, different⟩ := prospect_of_error hf missing
        rw [view] at blocked
        cases blocked
        exact different
    rw [decide_eq_false different]
    rfl

/-- The view of one more name. -/
theorem prospect_append_singleton (entry : Entry) (names : List (List Char)) (name : List Char) :
    entry.prospect (names ++ [name])
      = match entry.prospect names with
        | .ok entries => (directory entries).prospect [name]
        | .error cause =>
          .error (if cause = .alreadyExists then .notADirectory else cause) := by
  induction names generalizing entry with
  | nil => cases entry <;> rfl
  | cons first rest ih =>
    rw [List.cons_append, prospect_cons, prospect_cons]
    cases he : entry.enter first with
    | error cause => exact congrArg Except.error (if_neg (enter_error he).2).symm
    | ok child => exact ih _

/-- Where only the last name is missing, nothing stands in the way. -/
theorem prospect_of_last_notFound (name : List Char) {above : List (List Char)}
    (found : entry.find above = .ok inner)
    (missing : entry.find (above ++ [name]) = .error .notFound) :
    entry.prospect (above ++ [name]) = .ok [] := by
  rw [find_append, found] at missing
  have missing : inner.find [name] = .error .notFound := missing
  rw [find_cons] at missing
  cases he : inner.enter name with
  | error cause =>
    rw [he] at missing
    exact absurd (Except.error.inj missing) (enter_error he).1
  | ok child =>
    rw [he] at missing
    cases child with
    | some child => cases missing
    | none =>
      obtain ⟨entries, rfl⟩ := exists_eq_directory (enter_ok he).1
      rw [prospect_append_singleton, prospect_of_find found]
      show (directory entries).prospect [name] = _
      rw [prospect_cons, he]
      rfl

/-- Where the last name is missing, only too long a name can stand in the way above. -/
theorem nameTooLong_of_notFound {above : List (List Char)}
    (missing : entry.find (above ++ [name]) = .error .notFound)
    (blocked : entry.prospect above = .error cause) : cause = .nameTooLong := by
  have view := prospect_of_notFound missing
  rw [prospect_append_singleton, blocked] at view
  by_cases file : cause = .alreadyExists
  · rw [file] at view
    rcases view with view | view <;> cases view
  · simpa [file] using view

theorem leads_cons (entry : Entry) (name : List Char) (rest : List (List Char)) :
    entry.leads (name :: rest)
      = match entry.enter name with
        | .ok (some child) => child.leads rest
        | _ => false := by
  rw [leads, find_cons]
  cases entry.enter name with
  | error cause => rfl
  | ok child => cases child <;> rfl

theorem leads_emptyDirectory (name : List Char) (rest : List (List Char)) :
    emptyDirectory.leads (name :: rest) = false := by
  rw [leads_cons]
  cases he : emptyDirectory.enter name with
  | error cause => rfl
  | ok child =>
    obtain rfl : none = child := (enter_ok he).2.2
    rfl

/-- What may become of an entry while its own way along names is left alone: missing directories on
the way are made, and what stands at its end stays as it is. -/
def Grows : List (List Char) → Entry → Entry → Prop
  | name :: rest, .directory entries, .directory entries' =>
    (((directory entries).child? name).isSome = true →
      ((directory entries').child? name).isSome = true)
    ∧ Grows rest (((directory entries).child? name).getD emptyDirectory)
      (((directory entries').child? name).getD emptyDirectory)
  | _, entry, after => after = entry

namespace Grows

variable {after last : Entry}

theorem refl (names : List (List Char)) (entry : Entry) : Grows names entry entry := by
  induction names generalizing entry with
  | nil => cases entry <;> rfl
  | cons name rest ih =>
    cases entry with
    | directory entries => exact ⟨id, ih _⟩
    | _ => rfl

/-- What stands at the end of the way stays as it is. -/
theorem eq_of_nil (grows : Grows [] entry after) : after = entry := by
  cases entry <;> exact grows

/-- Only a directory grows. -/
theorem eq_of_file (grows : Grows names entry after) (file : entry.isDirectory = false) :
    after = entry := by
  cases names with
  | nil => exact grows.eq_of_nil
  | cons name rest =>
    cases entry with
    | directory entries => cases file
    | _ => exact grows

/-- What has grown is a directory with more in it, or as it was. -/
theorem cons_cases (grows : Grows (name :: rest) entry after) :
    after = entry ∨ ∃ entries entries', entry = .directory entries ∧ after = .directory entries'
      ∧ ((entry.child? name).isSome = true → (after.child? name).isSome = true)
      ∧ Grows rest ((entry.child? name).getD emptyDirectory)
        ((after.child? name).getD emptyDirectory) := by
  cases entry with
  | directory entries =>
    cases after with
    | directory entries' => exact .inr ⟨entries, entries', rfl, rfl, grows⟩
    | _ => cases grows
  | _ => exact .inl grows

theorem isDirectory (grows : Grows names entry after) : after.isDirectory = entry.isDirectory := by
  cases names with
  | nil => rw [grows.eq_of_nil]
  | cons name rest => rcases grows.cons_cases with rfl | ⟨entries, entries', rfl, rfl, -⟩ <;> rfl

theorem trans (first : Grows names entry after) (second : Grows names after last) :
    Grows names entry last := by
  induction names generalizing entry after last with
  | nil => exact first.eq_of_nil ▸ second
  | cons name rest ih =>
    rcases first.cons_cases with rfl | ⟨entries, entries', rfl, rfl, there, grows⟩
    · exact second
    · rcases second.cons_cases with rfl | ⟨-, entries'', -, rfl, there', grows'⟩
      · exact first
      · exact ⟨there' ∘ there, ih grows grows'⟩

/-- A link that was not on the way has not been put there. -/
theorem ne_link (grows : Grows names entry after) (plain : ∀ target, entry ≠ .link target)
    (target : String) : after ≠ .link target := by
  rintro rfl
  cases entry with
  | directory entries => cases names <;> cases grows
  | file content => cases names <;> cases grows
  | link target' => exact plain target' rfl

/-- From what has grown a name leads to what has grown, or is in the way as before. -/
theorem enter (grows : Grows (name :: rest) entry after) :
    (∃ cause, entry.enter name = .error cause ∧ after.enter name = .error cause)
    ∨ ∃ child child', entry.enter name = .ok child ∧ after.enter name = .ok child'
      ∧ (child.isSome = true → child'.isSome = true)
      ∧ Grows rest (child.getD emptyDirectory) (child'.getD emptyDirectory) := by
  rcases grows.cons_cases with rfl | ⟨entries, entries', rfl, rfl, there, grows⟩
  · cases he : after.enter name with
    | error cause => exact .inl ⟨cause, rfl, rfl⟩
    | ok child => exact .inr ⟨child, child, rfl, rfl, id, refl rest _⟩
  · by_cases long : maxName < byteLength name
    · exact .inl ⟨.nameTooLong, if_pos long, if_pos long⟩
    · cases hc : (directory entries).child? name with
      | none =>
        rw [hc] at there grows
        have plain := grows.ne_link fun _ => nofun
        refine .inr ⟨none, _, enter_of_child rfl long hc fun _ => nofun,
          enter_of_child rfl long rfl fun target same => plain target ?_, there, grows⟩
        rw [same]
        rfl
      | some child =>
        obtain ⟨child', hc'⟩ := Option.isSome_iff_exists.mp (there (by rw [hc]; rfl))
        rw [hc, hc'] at grows
        have grows : Grows rest child child' := grows
        by_cases link : ∃ target, child = .link target
        · obtain ⟨target, rfl⟩ := link
          obtain rfl := grows.eq_of_file rfl
          exact .inl ⟨_, enter_of_link rfl long hc, enter_of_link rfl long hc'⟩
        · have plain (target : String) : child ≠ .link target := fun same => link ⟨target, same⟩
          have plain' := grows.ne_link plain
          exact .inr ⟨some child, some child',
            enter_of_child rfl long hc fun target same => plain target (Option.some.inj same),
            enter_of_child rfl long hc' fun target same => plain' target (Option.some.inj same),
            fun _ => rfl, grows⟩

/-- What would stand at the end of the way still would. -/
theorem prospect (grows : Grows names entry after) : after.prospect names = entry.prospect names := by
  induction names generalizing entry after with
  | nil => rw [grows.eq_of_nil]
  | cons name rest ih =>
    rw [prospect_cons, prospect_cons]
    rcases grows.enter with ⟨cause, he, he'⟩ | ⟨child, child', he, he', -, inner⟩
    · rw [he, he']
    · rw [he, he']
      exact ih inner

/-- Directories that could be made on the way can still be made, or are there. -/
theorem room {first : List (List Char)} (grows : Grows names entry after)
    (inside : first <+: names) :
    (after.prospect first).map (fun _ => ()) = (entry.prospect first).map fun _ => () := by
  induction first generalizing names entry after with
  | nil =>
    cases directory : entry.isDirectory with
    | false => rw [grows.eq_of_file directory]
    | true =>
      obtain ⟨entries', rfl⟩ := exists_eq_directory (grows.isDirectory.trans directory)
      obtain ⟨entries, rfl⟩ := exists_eq_directory directory
      rfl
  | cons name rest ih =>
    obtain ⟨more, rfl⟩ := inside
    rw [prospect_cons, prospect_cons]
    rcases grows.enter with ⟨cause, he, he'⟩ | ⟨child, child', he, he', -, inner⟩
    · rw [he, he']
    · rw [he, he']
      exact ih inner (List.prefix_append _ _)

/-- A directory on the way stays one. -/
theorem stays {first : List (List Char)} (grows : Grows names entry after)
    (inside : first <+: names) (found : entry.find first = .ok inner) :
    ∃ inner', after.find first = .ok inner' ∧ inner'.isDirectory = inner.isDirectory := by
  induction first generalizing names entry after with
  | nil =>
    cases found
    exact ⟨after, rfl, grows.isDirectory⟩
  | cons name rest ih =>
    obtain ⟨more, rfl⟩ := inside
    obtain ⟨stood, entered, found⟩ := find_cons_ok found
    rcases grows.enter with ⟨cause, he, -⟩ | ⟨child, child', he, he', there, grows⟩
    · rw [he] at entered
      cases entered
    · obtain rfl : child = some stood := Except.ok.inj (he.symm.trans entered)
      obtain ⟨stands, rfl⟩ := Option.isSome_iff_exists.mp (there rfl)
      rw [find_cons, he']
      exact ih grows (List.prefix_append _ _) found

end Grows

section Put

variable {new : Entry} {other above : List (List Char)} {child : Entry}

/-- What is put somewhere is the child of what stands above it, and the other children stay. -/
theorem child?_put (directory : entry.isDirectory = true) (name : List Char)
    (rest : List (List Char)) (new : Entry) (other : List Char) :
    (entry.put (name :: rest) new).child? other
      = if other = name then some (((entry.child? name).getD emptyDirectory).put rest new)
        else entry.child? other := by
  obtain ⟨entries, rfl⟩ := exists_eq_directory directory
  rw [put, child?, List.find?_append]
  split
  · next same =>
    have nobody : (entries.filter fun entry => entry.1 != name).find?
        (fun entry => entry.1 == other) = none := by
      simp [same]
    rw [nobody]
    simp [same]
  · next different =>
    have kept : (entries.filter fun entry => entry.1 != name).find?
        (fun entry => entry.1 == other) = entries.find? fun entry => entry.1 == other := by
      rw [List.find?_filter]
      congr 1
      funext entry
      by_cases he : entry.1 = other <;> simp [he, different]
    rw [kept]
    simp [child?, Ne.symm different]

theorem isDirectory_put (entry : Entry) (name : List Char) (rest : List (List Char))
    (new : Entry) : (entry.put (name :: rest) new).isDirectory = entry.isDirectory := by
  cases entry <;> rfl

/-- Behind a name to an entry, what is put there is found, if it is no symbolic link. -/
theorem enter_put (entered : entry.enter name = .ok (some child)) (rest : List (List Char))
    (plain : ∀ target, child.put rest new ≠ .link target) :
    (entry.put (name :: rest) new).enter name = .ok (some (child.put rest new)) := by
  obtain ⟨directory, short, hc⟩ := enter_ok entered
  have inside := child?_put directory name rest new name
  rw [if_pos rfl, hc] at inside
  exact enter_of_child (by rwa [isDirectory_put]) short inside
    fun target same => plain target (Option.some.inj same)

/-- What is put below something is no symbolic link in its place. -/
theorem put_plain (entered : entry.enter name = .ok (some child)) (first : List Char)
    (rest : List (List Char)) (target : String) : child.put (first :: rest) new ≠ .link target := by
  intro same
  apply enter_plain entered target
  cases child <;> cases same
  rfl

/-- What is put somewhere is found there, if something was there before. -/
theorem find_put_self (new : Entry) (plain : ∀ target, new ≠ .link target)
    (found : entry.find names = .ok inner) : (entry.put names new).find names = .ok new := by
  induction names generalizing entry with
  | nil => cases entry <;> rfl
  | cons name rest ih =>
    obtain ⟨child, he, found⟩ := find_cons_ok found
    have last (target : String) : child.put rest new ≠ .link target := by
      cases rest with
      | nil => cases child <;> exact plain target
      | cons next rest => exact put_plain he next rest target
    rw [find_cons, enter_put he rest last]
    exact ih found

/-- What is put into a directory is found there. -/
theorem find_put_in (found : entry.find above = .ok inner) (directory : inner.isDirectory = true)
    (short : ¬ maxName < byteLength name) (plain : ∀ target, new ≠ .link target) :
    (entry.put (above ++ [name]) new).find (above ++ [name]) = .ok new := by
  induction above generalizing entry with
  | nil =>
    cases found
    have inside := child?_put directory name [] new name
    rw [if_pos rfl] at inside
    have last : ((inner.child? name).getD emptyDirectory).put [] new = new := by
      cases (inner.child? name).getD emptyDirectory <;> rfl
    rw [last] at inside
    rw [List.nil_append, find_cons, enter_of_child (by rwa [isDirectory_put]) short inside
      fun target same => plain target (Option.some.inj same)]
    rfl
  | cons first above ih =>
    obtain ⟨child, he, found⟩ := find_cons_ok found
    obtain ⟨next, rest, split⟩ := List.exists_cons_of_ne_nil (by simp : above ++ [name] ≠ [])
    have last (target : String) : child.put (above ++ [name]) new ≠ .link target := by
      rw [split]
      exact put_plain he next rest target
    rw [List.cons_append, find_cons, enter_put he _ last]
    exact ih found

/-- What others do to an entry spares a way along names if this only grows, and leads to something
exactly if it did. -/
structure Spares (names : List (List Char)) (entry after : Entry) : Prop where
  grows : Grows names entry after
  leads : after.leads names = entry.leads names

namespace Spares

variable {after last : Entry}

theorem refl (names : List (List Char)) (entry : Entry) : Spares names entry entry :=
  ⟨.refl _ _, rfl⟩

theorem trans (first : Spares names entry after) (second : Spares names after last) :
    Spares names entry last :=
  ⟨first.grows.trans second.grows, second.leads.trans first.leads⟩

end Spares

theorem Grows.of_children {after : Entry} (directory : entry.isDirectory = true)
    (directory' : after.isDirectory = true)
    (there : (entry.child? name).isSome = true → (after.child? name).isSome = true)
    (inner : Grows rest ((entry.child? name).getD emptyDirectory)
      ((after.child? name).getD emptyDirectory)) : Grows (name :: rest) entry after := by
  obtain ⟨entries, rfl⟩ := exists_eq_directory directory
  obtain ⟨entries', rfl⟩ := exists_eq_directory directory'
  exact ⟨there, inner⟩

/-- Other names are spared when something is put under a name. -/
theorem spares_put_beside (directory : entry.isDirectory = true) {first : List Char}
    (different : first ≠ name) (others : List (List Char)) :
    Spares (first :: others) entry (entry.put (name :: rest) new) := by
  have inside := child?_put directory name rest new first
  rw [if_neg different] at inside
  have directory' := isDirectory_put entry name rest new
  refine ⟨.of_children directory (directory'.trans directory) ?_ ?_, ?_⟩
  · rw [inside]
    exact id
  · rw [inside]
    exact .refl _ _
  · rw [leads_cons, leads_cons, enter, enter, directory', inside]

/-- A way is spared where something is put along it as far as the rest of it is. -/
theorem spares_put_cons (entered : entry.enter name = .ok (some child)) {others : List (List Char)}
    (nested : rest ≠ []) :
    (Grows others child (child.put rest new) →
      Grows (name :: others) entry (entry.put (name :: rest) new))
    ∧ ((child.put rest new).leads others = child.leads others →
      (entry.put (name :: rest) new).leads (name :: others) = entry.leads (name :: others)) := by
  obtain ⟨next, more, rfl⟩ := List.exists_cons_of_ne_nil nested
  obtain ⟨directory, -, hc⟩ := enter_ok entered
  have inside := child?_put directory name (next :: more) new name
  rw [if_pos rfl, hc] at inside
  constructor
  · intro grows
    refine .of_children directory (by rwa [isDirectory_put]) ?_ ?_
    · rw [inside]
      exact fun _ => rfl
    · rw [inside, hc]
      exact grows
  · intro same
    rw [leads_cons, leads_cons, enter_put entered _ (put_plain entered next more), entered]
    exact same

/-- A way that leads elsewhere is spared when something is replaced. -/
theorem spares_put_apart (new : Entry) (found : entry.find names = .ok inner)
    (outside : ¬ names <+: other) (above : ¬ other <+: names) :
    Spares other entry (entry.put names new) := by
  induction names generalizing entry other with
  | nil => exact absurd List.nil_prefix outside
  | cons name rest ih =>
    cases other with
    | nil => exact absurd List.nil_prefix above
    | cons first others =>
      obtain ⟨child, he, found'⟩ := find_cons_ok found
      by_cases same : first = name
      · subst same
        rw [List.cons_prefix_cons] at outside above
        have spared := ih found' (fun h => outside ⟨rfl, h⟩) fun h => above ⟨rfl, h⟩
        have nested : rest ≠ [] := by
          rintro rfl
          exact outside ⟨rfl, List.nil_prefix⟩
        obtain ⟨grows, leads⟩ := @spares_put_cons _ _ _ new _ he others nested
        exact ⟨grows spared.grows, leads spared.leads⟩
      · exact spares_put_beside (enter_ok he).1 same others

/-- A directory that is made in another one lets the ways along its name grow, and nothing is there
behind it. -/
theorem grows_put_child (directory : entry.isDirectory = true) (vacant : entry.child? name = none)
    (others : List (List Char)) :
    Grows (name :: others) entry (entry.put [name] emptyDirectory)
    ∧ (others ≠ [] →
      (entry.put [name] emptyDirectory).leads (name :: others) = entry.leads (name :: others)) := by
  have inside := child?_put directory name [] emptyDirectory name
  rw [if_pos rfl, vacant] at inside
  constructor
  · refine .of_children directory (by rwa [isDirectory_put]) ?_ ?_
    · rw [vacant]
      nofun
    · rw [inside, vacant]
      exact .refl _ _
  · intro longer
    obtain ⟨next, more, rfl⟩ := List.exists_cons_of_ne_nil longer
    have nowhere : entry.leads (name :: next :: more) = false := by
      rw [leads_cons, enter, vacant, directory]
      by_cases long : maxName < byteLength name <;> simp [long]
    rw [nowhere, leads_cons]
    split
    · next child he =>
      have hc := (enter_ok he).2.2
      rw [inside] at hc
      cases hc
      exact leads_emptyDirectory next more
    · rfl

/-- A directory that is made where nothing was lets all ways grow but those that end above it, and
spares all that do not end at it either. -/
theorem spares_put_vacant (found : entry.find above = .ok inner)
    (directory : inner.isDirectory = true) (vacant : inner.child? name = none) :
    ((other <+: above ++ [name] → other = above ++ [name]) →
      Grows other entry (entry.put (above ++ [name]) emptyDirectory))
    ∧ (¬ other <+: above ++ [name] →
      (entry.put (above ++ [name]) emptyDirectory).leads other = entry.leads other) := by
  induction above generalizing entry other with
  | nil =>
    cases found
    cases other with
    | nil => exact ⟨fun only => absurd (only List.nil_prefix) (by simp),
        fun outside => absurd List.nil_prefix outside⟩
    | cons first others =>
      by_cases same : first = name
      · subst same
        obtain ⟨grows, leads⟩ := grows_put_child directory vacant others
        refine ⟨fun _ => grows, fun outside => leads ?_⟩
        -- only longer names are left, and they do not lead into an empty directory
        rintro rfl
        exact outside (List.prefix_refl _)
      · have spared := @spares_put_beside _ _ [] emptyDirectory directory _ same others
        exact ⟨fun _ => spared.grows, fun _ => spared.leads⟩
  | cons top above ih =>
    cases other with
    | nil => exact ⟨fun only => absurd (only List.nil_prefix) (by simp),
        fun outside => absurd List.nil_prefix outside⟩
    | cons first others =>
      obtain ⟨child, he, found'⟩ := find_cons_ok found
      by_cases same : first = top
      · subst same
        obtain ⟨grows, leads⟩ := @spares_put_cons _ _ (above ++ [name]) emptyDirectory _ he
          others (by simp)
        obtain ⟨grows', leads'⟩ := @ih _ others found'
        rw [List.cons_append, List.cons_prefix_cons, List.cons.injEq]
        exact ⟨fun only => grows (grows' fun h => (only ⟨rfl, h⟩).2),
          fun outside => leads (leads' fun h => outside ⟨rfl, h⟩)⟩
      · have spared := @spares_put_beside _ _ (above ++ [name]) emptyDirectory
          (enter_ok he).1 _ same others
        exact ⟨fun _ => spared.grows, fun _ => spared.leads⟩

end Put

end Entry

end BuildHook
