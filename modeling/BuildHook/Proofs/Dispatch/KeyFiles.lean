import BuildHook.Proofs.Build.Keys
import BuildHook.Proofs.Build.Sample
import BuildHook.Proofs.Dispatch.Accounting
import BuildHook.Proofs.Git.Options

/-!
# Key files of the builds of a pool

Keys are staged in files of one directory that all builds share: a file is made where there is none,
holds what it was staged with, and is there until its build discards it. So each build keeps the
file of its own key, whatever the others stage and discard meanwhile, and its git calls find nothing
else in it.

## Main results

`Course.run_keeps_keys` says what the git calls of all builds find, and how a build ends that has a
key but no address for it. `Course.not_always_missing` shows that other errors can come before that
one, and that the two addresses of a repository can be equal.
-/

namespace BuildHook.Dispatch

open Build (Keyed boundValues cloneAddress firstReport heldAfter lastReport reportsOf)
open Procedure

/-- A git call that was made for a build, and what stood in its key file then. -/
structure GitVisit where
  build : Nat
  call : GitCall
  key : Option String

/-- The files in which keys are staged, the git calls made so far, and everything else around the
builds. -/
structure KeyStore (σ : Type) where
  files : List StagedKey
  visits : List GitVisit
  rest : σ

namespace KeyStore

variable {σ : Type}

/-- A store in which nothing has been staged. -/
def empty (rest : σ) : KeyStore σ := ⟨[], [], rest⟩

/-- What stands in the file at a path. -/
def content? (store : KeyStore σ) (path : String) : Option String :=
  (store.files.find? fun file => file.path == path).map StagedKey.content

/-- Makes a file, unless there is one at the path. -/
def stage (store : KeyStore σ) (path content : String) :
    Except IoError StagedKey × KeyStore σ :=
  if store.files.any fun file => file.path == path then (.error .alreadyExists, store)
  else (.ok ⟨path, content⟩, { store with files := store.files ++ [⟨path, content⟩] })

/-- Removes the file at a path. -/
def remove (store : KeyStore σ) (path : String) : KeyStore σ :=
  { store with files := store.files.filter fun file => file.path != path }

/-- Writes down the git call that a request comes to, if it comes to one. -/
def visit (store : KeyStore σ) (build : Nat) (r : Build.Request) : KeyStore σ :=
  match r.gitWork? with
  | some (_, call) =>
    { store with visits := store.visits ++ [⟨build, call, call.keyPath?.bind store.content?⟩] }
  | none => store

/-- The store with something else around the builds. -/
def among (store : KeyStore σ) (rest : σ) : KeyStore σ := { store with rest }

end KeyStore

variable {σ : Type}

/-- Surroundings in which keys are staged in files. They choose the path of each, let staging fail
or wait as they like, and answer all else; but nobody touches the files otherwise. -/
def keeping (surroundings : Surroundings σ) : Surroundings (KeyStore σ)
  | build, .stageKey content, store =>
    match surroundings build (.stageKey content) store.rest with
    | (some (.ok file), rest) =>
      let (staged, store) := (store.among rest).stage file.path content
      (some staged, store)
    | (reply, rest) => (reply, store.among rest)
  | build, .discardKey file, store =>
    match surroundings build (.discardKey file) store.rest with
    | (some (), rest) => (some (), (store.among rest).remove file.path)
    | (none, rest) => (none, store.among rest)
  | build, r, store =>
    let (reply, rest) := surroundings build r store.rest
    (reply, (store.visit build r).among rest)

/-- A move among key files, which it does not touch. -/
def Move.besideKeys : Move σ → Move (KeyStore σ)
  | .dispatch push project => .dispatch push project
  | .start build => .start build
  | .step build => .step build
  | .change f => .change fun store => store.among (f store.rest)
  | .close => .close
  | .await shutdown => .await shutdown
  | .wake shutdown => .wake shutdown

/-- The key file that a build has, by what it was answered. -/
def Course.held (course : Course σ) (build : Nat) : Option StagedKey :=
  (course.calls build).foldl heldAfter none

/-- Whether a project has a key, and it is this one. -/
def HasKey (project : ProjectRecord) (key : String) : Prop := project.sshKey = some key ∧ key ≠ ""

/-- Whether a text is that of the file of a key: the key with a line feed at its end, which is added
only if it is not there. -/
def IsKeyFile (key content : String) : Prop :=
  if key.toList.getLast? = some '\n' then content = key else content = key ++ "\n"

/-- Whether a git call is made with the key of a project and with no other: if it reaches out of the
working copy, it has a key file exactly if the project has a key, which stands in the file then; and
a clone is from the address for keys if it has a key file, and else from the other address. So its
address tells whether it has a key file, unless both addresses are the same. Without an address for
keys nothing is called for a project with a key. -/
structure GitVisit.IsKeyed (push : Push) (project : ProjectRecord) (visit : GitVisit) : Prop where
  given : ∀ path?, (∃ url, visit.call = .clone url path?) ∨ visit.call = .update path? →
    (path?.isSome = true ↔ ∃ key, HasKey project key)
  found : ∀ path, visit.call.keyPath? = some path →
    ∃ key content, HasKey project key ∧ IsKeyFile key content ∧ visit.key = some content
  address : ∀ url path?, visit.call = .clone url path? →
    if path?.isSome then push.repository.sshUrl = some url else url = push.repository.cloneUrl
  told : push.repository.sshUrl ≠ some push.repository.cloneUrl →
    ∀ url path?, visit.call = .clone url path? →
      (path?.isSome = true ↔ push.repository.sshUrl = some url)
  reachable : (∃ key, HasKey project key) → push.repository.sshUrl.isSome = true

/-! ## The files -/

namespace KeyStore

variable {store : KeyStore σ} {path content other : String}

theorem any_of_content? (found : store.content? path = some content) :
    store.files.any (fun file => file.path == path) = true := by
  obtain ⟨file, found, -⟩ := Option.map_eq_some_iff.mp found
  have same : file.path = path := by simpa using List.find?_some found
  exact List.any_eq_true.mpr ⟨file, List.mem_of_find?_eq_some found, by simpa using same⟩

/-- A file is made where there is none, or nothing is changed. -/
theorem stage_cases (store : KeyStore σ) (path content : String) :
    store.stage path content = (.error .alreadyExists, store)
    ∨ (∀ other text, store.content? other = some text → other ≠ path)
      ∧ store.stage path content
        = (.ok ⟨path, content⟩, { store with files := store.files ++ [⟨path, content⟩] }) := by
  unfold stage
  split
  · exact .inl rfl
  · next fresh =>
    refine .inr ⟨?_, rfl⟩
    rintro other text found rfl
    exact fresh (any_of_content? found)

/-- What is staged elsewhere leaves a file as it is. -/
theorem content?_append (found : store.content? other = some content) (file : StagedKey) :
    KeyStore.content? { store with files := store.files ++ [file] } other = some content := by
  obtain ⟨old, first, rfl⟩ := Option.map_eq_some_iff.mp found
  rw [content?, List.find?_append, first]
  rfl

/-- A new file holds what was staged. -/
theorem content?_staged (fresh : ∀ other text, store.content? other = some text → other ≠ path) :
    KeyStore.content? { store with files := store.files ++ [⟨path, content⟩] } path
      = some content := by
  have none_there : store.files.find? (fun file => file.path == path) = none := by
    rw [← Option.map_eq_none_iff (f := StagedKey.content)]
    cases there : store.content? path with
    | none => exact there
    | some text => exact absurd rfl (fresh path text there)
  rw [content?, List.find?_append, none_there]
  simp

/-- What is discarded elsewhere leaves a file as it is. -/
theorem content?_remove (different : other ≠ path) :
    (store.remove path).content? other = store.content? other := by
  unfold content? remove
  rw [List.find?_filter]
  congr 2
  funext file
  by_cases same : file.path = other
  · simp [same, different]
  · simp [same]

/-- What stands in the files depends on nothing else. -/
theorem content?_of_files {after : KeyStore σ} (same : after.files = store.files) :
    after.content? path = store.content? path := by
  rw [content?, same, content?]

end KeyStore

/-! ## The surroundings -/

variable (surroundings : Surroundings σ) (build : Nat) (store : KeyStore σ)

/-- Staging makes a file where there is none, or changes no file. -/
theorem keeping_stageKey (content : String) :
    (keeping surroundings build (.stageKey content) store).2.visits = store.visits
    ∧ ((∀ file, (keeping surroundings build (.stageKey content) store).1 ≠ some (.ok file))
        ∧ (keeping surroundings build (.stageKey content) store).2.files = store.files
      ∨ ∃ path, (∀ other text, store.content? other = some text → other ≠ path)
        ∧ (keeping surroundings build (.stageKey content) store).1 = some (.ok ⟨path, content⟩)
        ∧ (keeping surroundings build (.stageKey content) store).2.files
          = store.files ++ [⟨path, content⟩]) := by
  simp only [keeping]
  split
  · next file rest chosen =>
    rcases (store.among rest).stage_cases file.path content with taken | ⟨fresh, made⟩
    · rw [taken]
      exact ⟨rfl, .inl ⟨fun _ same => (nomatch same), rfl⟩⟩
    · rw [made]
      exact ⟨rfl, .inr ⟨file.path, fresh, rfl, rfl⟩⟩
  · next reply rest unmade chosen =>
    exact ⟨rfl, .inl ⟨fun file same => unmade file same, rfl⟩⟩

/-- Discarding removes the file, unless it has to wait. -/
theorem keeping_discardKey (file : StagedKey) :
    (keeping surroundings build (.discardKey file) store).2.visits = store.visits
    ∧ ((keeping surroundings build (.discardKey file) store).1 = none
        ∧ (keeping surroundings build (.discardKey file) store).2.files = store.files
      ∨ (keeping surroundings build (.discardKey file) store).1 = some ()
        ∧ (keeping surroundings build (.discardKey file) store).2.files
          = (store.remove file.path).files) := by
  simp only [keeping]
  split
  · exact ⟨rfl, .inr ⟨rfl, rfl⟩⟩
  · exact ⟨rfl, .inl ⟨rfl, rfl⟩⟩

/-- Nothing else touches the files, and git calls are written down. -/
theorem keeping_other {r : Build.Request} (other : r.kind ≠ .key) :
    (keeping surroundings build r store).2.files = store.files
    ∧ (keeping surroundings build r store).2.visits = (store.visit build r).visits := by
  cases r <;> first | exact absurd rfl other | exact ⟨rfl, rfl⟩

/-! ## The key files of the builds -/

/-- The key files that the builds have are their own: each holds the key of the build's project, and
no two builds have the same. And all git calls were made as they should be. -/
structure KeysKept (held : Nat → Option StagedKey) (jobs : List Job) (store : KeyStore σ) :
    Prop where
  own : ∀ {i : Nat} {file : StagedKey}, held i = some file →
    ∃ job, jobs[i]? = some job ∧ job.project.usableKey.map Build.keyFileContent = some file.content
  there : ∀ {i : Nat} {file : StagedKey}, held i = some file →
    store.content? file.path = some file.content
  apart : ∀ {i j : Nat} {file other : StagedKey}, held i = some file → held j = some other →
    file.path = other.path → i = j
  visits : ∀ visit ∈ store.visits,
    ∃ job, jobs[visit.build]? = some job ∧ visit.IsKeyed job.push job.project

/-- The key files of all builds after one of them has been answered. -/
def heldAmong (held : Nat → Option StagedKey) (build : Nat) (exchanges : List Build.Exchange) :
    Nat → Option StagedKey :=
  fun i => if build = i then exchanges.foldl heldAfter (held i) else held i

theorem heldAmong_of_same {held : Nat → Option StagedKey} {build : Nat}
    {exchanges : List Build.Exchange} (same : exchanges.foldl heldAfter (held build) = held build) :
    heldAmong held build exchanges = held := by
  funext i
  unfold heldAmong
  split
  · next here =>
    subst here
    exact same
  · rfl

theorem hasKey_iff {project : ProjectRecord} {key : String} :
    HasKey project key ↔ project.usableKey = some key := by
  simp [HasKey, ProjectRecord.usableKey, Option.filter_eq_some_iff]

theorem exists_hasKey_iff {project : ProjectRecord} :
    (∃ key, HasKey project key) ↔ project.hasSshKey = true := by
  simp only [hasKey_iff, ProjectRecord.hasSshKey, Option.isSome_iff_exists]

/-- A build with a key clones from the address for keys, and each other one from the other. -/
theorem cloneAddress_eq_ok {push : Push} {project : ProjectRecord} {url : String}
    (address : cloneAddress push project = .ok url) :
    if project.hasSshKey then push.repository.sshUrl = some url
    else url = push.repository.cloneUrl := by
  unfold cloneAddress at address
  split
  · next has =>
    rw [if_pos has] at address
    split at address
    · next found =>
      cases address
      exact found
    · cases address
  · next bare =>
    rw [if_neg bare] at address
    cases address
    rfl

/-- Where there is a key and an address to clone from, it is the address for keys. -/
theorem isSome_sshUrl {push : Push} {project : ProjectRecord} {url : String}
    (address : cloneAddress push project = .ok url) (has : ∃ key, HasKey project key) :
    push.repository.sshUrl.isSome = true := by
  have keyed := cloneAddress_eq_ok address
  rw [if_pos (exists_hasKey_iff.mp has)] at keyed
  rw [keyed]
  rfl

/-- Where the two addresses of a repository differ, the one that is cloned from tells whether there
is a key. -/
theorem told_by_address {push : Push} {url : String} {has : Bool}
    (address : if has then push.repository.sshUrl = some url else url = push.repository.cloneUrl)
    (different : push.repository.sshUrl ≠ some push.repository.cloneUrl) :
    has = true ↔ push.repository.sshUrl = some url := by
  cases has with
  | true => exact iff_of_true rfl address
  | false =>
    obtain rfl : url = push.repository.cloneUrl := address
    exact iff_of_false Bool.false_ne_true different

theorem isKeyFile_keyFileContent (key : String) : IsKeyFile key (Build.keyFileContent key) := by
  unfold IsKeyFile Build.keyFileContent
  have same : ['\n'].isSuffixOf key.toList = true ↔ key.toList.getLast? = some '\n' := by
    rw [List.isSuffixOf_iff_suffix, List.singleton_suffix_iff_getLast?_eq_some]
  by_cases ended : key.toList.getLast? = some '\n'
  · rw [if_pos ended, if_pos (same.mpr ended)]
  · rw [if_neg ended, if_neg (mt same.mp ended)]

namespace KeysKept

variable {held : Nat → Option StagedKey} {jobs : List Job} {store after : KeyStore σ}
  {build : Nat} {job : Job} {path content : String}

/-- What builds keep, they keep beside others that come later. -/
theorem remain (kept : KeysKept held jobs store) {jobs' : List Job}
    (remain : ∀ {i : Nat} {job : Job}, jobs[i]? = some job →
      ∃ job', jobs'[i]? = some job' ∧ job.Becomes job') : KeysKept held jobs' store where
  own := by
    intro i file has
    obtain ⟨job, found, content⟩ := kept.own has
    obtain ⟨job', found', becomes⟩ := remain found
    exact ⟨job', found', by rw [becomes.project, content]⟩
  there := kept.there
  apart := kept.apart
  visits := by
    intro visit member
    obtain ⟨job, found, keyed⟩ := kept.visits visit member
    obtain ⟨job', found', becomes⟩ := remain found
    exact ⟨job', found', by rwa [becomes.push, becomes.project]⟩

theorem of_same (kept : KeysKept held jobs store) (files : after.files = store.files)
    (visits : after.visits = store.visits) : KeysKept held jobs after where
  own := kept.own
  there has := (KeyStore.content?_of_files files).trans (kept.there has)
  apart := kept.apart
  visits := by
    rw [visits]
    exact kept.visits

/-- A new file is no other build's. -/
theorem stage (kept : KeysKept held jobs store) (found : jobs[build]? = some job)
    (key : job.project.usableKey.map Build.keyFileContent = some content)
    (fresh : ∀ other text, store.content? other = some text → other ≠ path)
    (files : after.files = store.files ++ [⟨path, content⟩])
    (visits : after.visits = store.visits) :
    KeysKept (fun i => if build = i then some ⟨path, content⟩ else held i) jobs after where
  own := by
    intro i file has
    split at has
    · next here =>
      cases has
      exact ⟨job, here ▸ found, key⟩
    · exact kept.own has
  there := by
    intro i file has
    split at has
    · cases has
      exact (KeyStore.content?_of_files files).trans (KeyStore.content?_staged fresh)
    · exact (KeyStore.content?_of_files files).trans
        (KeyStore.content?_append (kept.there has) ⟨path, content⟩)
  apart := by
    intro i j file other has has' same
    split at has <;> split at has'
    · next here here' => exact here.symm.trans here'
    · cases has
      exact absurd same.symm (fresh _ _ (kept.there has'))
    · cases has'
      exact absurd same (fresh _ _ (kept.there has))
    · exact kept.apart has has' same
  visits := by
    rw [visits]
    exact kept.visits

/-- A file is removed by the build that has it. -/
theorem remove (kept : KeysKept held jobs store) {file : StagedKey} (has : held build = some file)
    (files : after.files = (store.remove file.path).files)
    (visits : after.visits = store.visits) :
    KeysKept (fun i => if build = i then none else held i) jobs after where
  own := by
    intro i other has'
    split at has'
    · cases has'
    · exact kept.own has'
  there := by
    intro i other has'
    split at has'
    · cases has'
    · next elsewhere =>
      have different : other.path ≠ file.path := fun same =>
        elsewhere (kept.apart has' has same).symm
      calc
        after.content? other.path = (store.remove file.path).content? other.path :=
          KeyStore.content?_of_files files
        _ = store.content? other.path := KeyStore.content?_remove different
        _ = some other.content := kept.there has'
  apart := by
    intro i j first second has' has'' same
    split at has' <;> split at has''
    · cases has'
    · cases has'
    · cases has''
    · exact kept.apart has' has'' same
  visits := by
    rw [visits]
    exact kept.visits

/-- In the key file of a build stands the key of its project. -/
theorem found_key (kept : KeysKept held jobs store) (found : jobs[build]? = some job)
    (has : (held build).map StagedKey.path = some path) :
    ∃ key content, HasKey job.project key ∧ IsKeyFile key content
      ∧ ((held build).map StagedKey.path).bind store.content? = some content := by
  obtain ⟨file, holds, rfl⟩ := Option.map_eq_some_iff.mp has
  obtain ⟨job', found', own⟩ := kept.own holds
  obtain rfl : job = job' := Option.some.inj (found.symm.trans found')
  obtain ⟨key, usable, content⟩ := Option.map_eq_some_iff.mp own
  refine ⟨key, file.content, hasKey_iff.mpr usable, content ▸ isKeyFile_keyFileContent key, ?_⟩
  rw [has, Option.bind_some, kept.there holds]

/-- A git call that a build may make finds the key of this build. -/
theorem isKeyed (kept : KeysKept held jobs store) (found : jobs[build]? = some job)
    {r : Build.Request} (handles : r.Handles job.push job.project (held build)) {dest : String}
    {call : GitCall} (comes : r.gitWork? = some (dest, call)) :
    GitVisit.IsKeyed job.push job.project
      ⟨build, call, call.keyPath?.bind store.content?⟩ := by
  -- apart from the checkout, which has no key file, a call is given the file that the build has
  have given : ((held build).map StagedKey.path).isSome = job.project.hasSshKey := by
    have fits : (held build).isSome = job.project.hasSshKey := by
      cases r <;> first | exact handles.1 | cases comes
    rw [Option.isSome_map, fits]
  have given_iff : ((held build).map StagedKey.path).isSome = true
      ↔ ∃ key, HasKey job.project key := by
    rw [given, exists_hasKey_iff]
  cases r with
  | clone url dest key =>
    cases comes
    obtain ⟨-, address, rfl⟩ := handles
    have cloned := cloneAddress_eq_ok address
    rw [← given] at cloned
    exact {
      given := by
        rintro path? (⟨url, same⟩ | same) <;> cases same
        exact given_iff
      found := fun path has => kept.found_key found has
      address := by
        rintro url path? same
        cases same
        exact cloned
      told := by
        rintro different url path? same
        cases same
        exact told_by_address cloned different
      reachable := isSome_sshUrl address }
  | update dest key =>
    cases comes
    obtain ⟨-, ⟨url, address⟩, rfl⟩ := handles
    exact {
      given := by
        rintro path? (⟨url, same⟩ | same) <;> cases same
        exact given_iff
      found := fun path has => kept.found_key found has
      address := fun url path? same => nomatch same
      told := fun _ url path? same => nomatch same
      reachable := isSome_sshUrl address }
  | checkout dest revision =>
    cases comes
    obtain ⟨-, url, address⟩ := handles
    exact {
      given := by rintro path? (⟨url, same⟩ | same) <;> cases same
      found := fun path has => nomatch has
      address := fun url path? same => nomatch same
      told := fun _ url path? same => nomatch same
      reachable := isSome_sshUrl address }
  | _ => cases comes

/-- A git call changes no file. -/
theorem visit (kept : KeysKept held jobs store) (found : jobs[build]? = some job)
    {r : Build.Request} (handles : r.Handles job.push job.project (held build))
    (files : after.files = store.files) (visits : after.visits = (store.visit build r).visits) :
    KeysKept held jobs after where
  own := kept.own
  there has := (KeyStore.content?_of_files files).trans (kept.there has)
  apart := kept.apart
  visits := by
    rw [visits, KeyStore.visit]
    split
    · next dest call comes =>
      intro visit member
      rcases List.mem_append.mp member with old | new
      · exact kept.visits visit old
      · rw [List.mem_singleton.mp new]
        exact ⟨job, found, kept.isKeyed found handles comes⟩
    · exact kept.visits

/-- Whatever a build asks for that it may ask for, all builds keep their files. -/
theorem asked (kept : KeysKept held jobs store) (found : jobs[build]? = some job)
    {r : Build.Request} (handles : r.Handles job.push job.project (held build))
    (surroundings : Surroundings σ) :
    KeysKept
      (heldAmong held build
        ((keeping surroundings build r store).1.map fun reply => ⟨r, reply⟩).toList)
      jobs (keeping surroundings build r store).2 := by
  by_cases aboutKeys : r.kind = .key
  · cases r with
    | stageKey content =>
      obtain ⟨bare, key⟩ := handles
      obtain ⟨visits, ⟨unmade, files⟩ | ⟨path, fresh, made, files⟩⟩ :=
        keeping_stageKey surroundings build store content
      · rw [heldAmong_of_same]
        · exact kept.of_same files visits
        · cases reply : (keeping surroundings build (.stageKey content) store).1 with
          | none => rfl
          | some staging =>
            cases staging with
            | error cause => rfl
            | ok file => exact absurd reply (unmade file)
      · rw [made]
        exact kept.stage found key fresh files visits
    | discardKey file =>
      obtain ⟨visits, ⟨waits, files⟩ | ⟨done, files⟩⟩ :=
        keeping_discardKey surroundings build store file
      · rw [waits, heldAmong_of_same rfl]
        exact kept.of_same files visits
      · rw [done]
        exact kept.remove handles files visits
    | _ => cases aboutKeys
  · obtain ⟨files, visits⟩ := keeping_other surroundings build store aboutKeys
    rw [heldAmong_of_same]
    · exact kept.visit found handles files visits
    · cases (keeping surroundings build r store).1 with
      | none => rfl
      | some reply => exact Build.heldAfter_of_ne aboutKeys

end KeysKept

/-! ## The courses -/

theorem foldl_heldAfter_withoutLocks (held : Option StagedKey) (h : List Build.Exchange) :
    (withoutLocks h).foldl heldAfter held = h.foldl heldAfter held := by
  induction h generalizing held with
  | nil => rfl
  | cons x rest ih =>
    by_cases lock : x.question.kind = .lock
    · have unchanged : heldAfter held x = held := Build.heldAfter_of_ne (by simp [lock])
      rw [withoutLocks, List.filter_cons_of_neg (by simp [lock]), ← withoutLocks, ih,
        List.foldl_cons, unchanged]
    · rw [withoutLocks, List.filter_cons_of_pos (by simp [lock]), ← withoutLocks,
        List.foldl_cons, List.foldl_cons, ih]

namespace Course

variable {settings : Build.Settings} {surroundings : Surroundings (KeyStore σ)}

theorem held_of_log {course after : Course σ} {build : Nat} {exchanges : List Build.Exchange}
    (log : after.log = course.log ++ entries build exchanges) :
    after.held = heldAmong course.held build exchanges := by
  funext i
  unfold held heldAmong
  rw [calls_of_log log, List.foldl_append]
  split <;> rfl

theorem held_of_same_log {course after : Course σ} (log : after.log = course.log) :
    after.held = course.held := by
  funext i
  rw [held, calls_of_same_log log, held]

/-- What is left of a build handles keys by the file that it has. -/
theorem keyed {τ : Type} {course : Course τ} (traced : Traced settings course) {i : Nat} {job : Job}
    (found : course.pool.jobs[i]? = some job) :
    Keyed job.push job.project (course.held i) job.phase.steps := by
  obtain ⟨h, hl, calls, -⟩ := traced.run found
  have left := (Build.run_keyed settings job.push job.project).leads hl
  rwa [← foldl_heldAfter_withoutLocks, calls] at left

/-- Whatever move is made, all builds keep their files. -/
theorem after_keysKept {surroundings : Surroundings σ} {course : Course (KeyStore σ)}
    (traced : Traced settings course)
    (kept : KeysKept course.held course.pool.jobs course.state) (move : Move σ) :
    KeysKept (course.after settings (keeping surroundings) move.besideKeys).held
      (course.after settings (keeping surroundings) move.besideKeys).pool.jobs
      (course.after settings (keeping surroundings) move.besideKeys).state := by
  obtain ⟨answers, -, next⟩ := after_next settings (keeping surroundings) course move.besideKeys
  have stirs := after_stirs settings (keeping surroundings) course move.besideKeys
  generalize course.after settings (keeping surroundings) move.besideKeys = after at next stirs ⊢
  generalize made : move.besideKeys = stirring at stirs
  refine KeysKept.remain ?_ fun found => next.becomes found
  cases stirs with
  | @asked build push project r rest runs other state log =>
    rw [held_of_log log, state]
    exact kept.asked runs (keyed traced runs).1 surroundings
  | @changed f state log =>
    rw [held_of_same_log log, state]
    cases move <;> cases made
    exact kept.of_same rfl rfl
  | still state log =>
    rw [held_of_same_log log, state]
    exact kept

theorem run_keysKept (surroundings : Surroundings σ) (maxConcurrent : Nat) (state : σ)
    (moves : List (Move σ)) :
    let course := (create maxConcurrent (KeyStore.empty state)).run settings
      (keeping surroundings) (moves.map Move.besideKeys)
    KeysKept course.held course.pool.jobs course.state := by
  suffices all : ∀ course : Course (KeyStore σ), Traced settings course →
      KeysKept course.held course.pool.jobs course.state →
      KeysKept (course.run settings (keeping surroundings) (moves.map Move.besideKeys)).held
        (course.run settings (keeping surroundings) (moves.map Move.besideKeys)).pool.jobs
        (course.run settings (keeping surroundings) (moves.map Move.besideKeys)).state by
    have fresh : Traced settings ((create maxConcurrent (KeyStore.empty state)).run settings
        (keeping surroundings) []) := run_traced maxConcurrent _ []
    refine all _ fresh ⟨?_, ?_, ?_, ?_⟩
    all_goals intro i; intros; contradiction
  induction moves with
  | nil => exact fun course _ kept => kept
  | cons move moves ih =>
    intro course traced kept
    obtain ⟨answers, log, next⟩ :=
      after_next settings (keeping surroundings) course move.besideKeys
    exact ih _ (traced.next log next) (after_keysKept traced kept move)

end Course

/-- Whether the keys of the builds of a course stay apart: all git calls are made with the key of
their own project, or with none, and so are all keys that are staged or shown to a script; and a
build that has a key but no address for it fails for want of it, unless it has failed already. -/
structure Course.KeysApart (settings : Build.Settings) (course : Course (KeyStore σ)) : Prop where
  visits : ∀ visit ∈ course.state.visits,
    ∃ job, course.pool.jobs[visit.build]? = some job ∧ visit.IsKeyed job.push job.project
  own : ∀ {i : Nat} {job : Job}, course.pool.jobs[i]? = some job → ∀ x ∈ course.calls i,
    (∀ content, x.question = .stageKey content →
      ∃ key, HasKey job.project key ∧ IsKeyFile key content)
    ∧ ∀ name value, x.question = .bind name value →
      (name, value) ∈ boundValues job.push job.project
  unreachable : ∀ {i : Nat} {job : Job} {state : BuildState},
    course.pool.jobs[i]? = some job → job.phase = .finished state →
    (∃ key, HasKey job.project key) → job.push.repository.sshUrl = none →
    (∀ content cause, ⟨.stageKey content, .error cause⟩ ∉ course.calls i) →
    Workspace.accepts job.push.repository.fullName = true →
    (∀ path cause, ⟨.makeDirectories path, .error cause⟩ ∉ course.calls i) →
    state = .failure
      ∧ course.reports i
        = [firstReport settings job.push, lastReport settings job.push (.error .missingSshUrl)]

namespace Traced

variable {settings : Build.Settings} {τ : Type} {course : Course τ} {i : Nat} {job : Job}

/-- What a build stages and shows to its script is its own. -/
theorem own (traced : Traced settings course) (found : course.pool.jobs[i]? = some job)
    {x : Build.Exchange} (called : x ∈ course.calls i) :
    (∀ content, x.question = .stageKey content →
      ∃ key, HasKey job.project key ∧ IsKeyFile key content)
    ∧ ∀ name value, x.question = .bind name value →
      (name, value) ∈ boundValues job.push job.project := by
  obtain ⟨h, hl, calls, -⟩ := traced.run found
  rw [← calls] at called
  obtain ⟨held, handles⟩ := (Build.run_keyed settings job.push job.project).forall_mem hl x
    (List.mem_filter.mp called).1
  constructor
  · intro content asks
    rw [asks] at handles
    obtain ⟨key, usable, rfl⟩ := Option.map_eq_some_iff.mp handles.2
    exact ⟨key, hasKey_iff.mpr usable, isKeyFile_keyFileContent key⟩
  · intro name value asks
    rw [asks] at handles
    exact handles.2

/-- A build without an address for its key fails for want of it, unless it has failed already. -/
theorem unreachable (traced : Traced settings course) (found : course.pool.jobs[i]? = some job)
    {state : BuildState} (finished : job.phase = .finished state)
    (has : ∃ key, HasKey job.project key) (unreachable : job.push.repository.sshUrl = none)
    (staged : ∀ content cause, ⟨.stageKey content, .error cause⟩ ∉ course.calls i)
    (accepted : Workspace.accepts job.push.repository.fullName = true)
    (made : ∀ path cause, ⟨.makeDirectories path, .error cause⟩ ∉ course.calls i) :
    state = .failure
      ∧ course.reports i
        = [firstReport settings job.push,
          lastReport settings job.push (.error .missingSshUrl)] := by
  obtain ⟨h, hl, calls, -⟩ := traced.run found
  rw [finished] at hl
  rw [← calls] at staged made
  rcases Build.leads_run_spelled hl with
    ⟨content, cause, -, rfl, -⟩ | ⟨key, result, -, spelled, reports, ends⟩
  · exact absurd List.mem_cons_self (staged _ cause)
  · have missing : result = .error .missingSshUrl :=
      spelled.missingSshUrl (exists_hasKey_iff.mp has) unreachable accepted
        fun path cause failed => made path cause (List.mem_filter.mpr ⟨failed, rfl⟩)
    subst missing
    refine ⟨ends, ?_⟩
    rw [Course.reports, ← calls, reportsOf_withoutLocks, reports]

end Traced

/-- Whatever the builds of a pool do, and in whatever order, their keys stay apart. -/
theorem Course.run_keeps_keys (settings : Build.Settings) (surroundings : Surroundings σ)
    (maxConcurrent : Nat) (state : σ) (moves : List (Move σ)) :
    KeysApart settings ((create maxConcurrent (KeyStore.empty state)).run settings
      (keeping surroundings) (moves.map Move.besideKeys)) := by
  have traced : Traced settings ((create maxConcurrent (KeyStore.empty state)).run settings
      (keeping surroundings) (moves.map Move.besideKeys)) := run_traced maxConcurrent _ _
  exact {
    visits := (run_keysKept surroundings maxConcurrent state moves).visits
    own := fun found _ called => traced.own found called
    unreachable := fun found finished => traced.unreachable found finished }

namespace Sample

/-- Surroundings in which the next key is staged in a file of the next number, and all else is as in
the sample build. -/
def numbering : Surroundings Nat
  | _, .stageKey content, n => (some (.ok ⟨"/keys/" ++ toString n, content⟩), n + 1)
  | _, r, n => (some (Build.Sample.answer r n).1, n)

/-- A push to a repository that has no address for keys. -/
def unreachablePush (fullName : String) : Push :=
  { Build.Sample.pushTo fullName with repository := ⟨fullName, "u", none, none, none⟩ }

def projectWith (key : Option String) : ProjectRecord := ⟨"a/b", "s", key⟩

/-- What becomes of some builds that make their requests in turn. -/
def inTurn (builds : List (Push × ProjectRecord)) : Course (KeyStore Nat) :=
  let turn := List.range builds.length
  let moves := builds.map (fun (push, project) => .dispatch push project)
    ++ turn.map .start ++ (List.replicate 12 (turn.map .step)).flatten
  (Course.create builds.length (.empty 0)).run Build.Sample.settings (keeping numbering)
    (moves.map Move.besideKeys)

/-- Builds with different keys, one with an empty key, and one without an address for its key. -/
def variousKeys : List (Push × ProjectRecord) :=
  [(Build.Sample.pushTo "a/b", projectWith (some "K")),
    (Build.Sample.pushTo "c/d", projectWith (some "L\n")),
    (Build.Sample.pushTo "e/f", projectWith (some "")),
    (unreachablePush "g/h", projectWith (some "M"))]

end Sample

/-- Four builds beside each other. -/
theorem Course.run_keeps_keys_four_builds :
    let course := Sample.inTurn Sample.variousKeys
    KeysApart Build.Sample.settings course
    ∧ (∀ job ∈ course.pool.jobs, job.phase.isFinished = true)
    ∧ course.state.visits.map (fun visit => (visit.build, visit.call.operation, visit.key))
      = [(2, "clone", none), (0, "clone", some "K\n"), (1, "clone", some "L\n"),
        (2, "fetch", none), (0, "fetch", some "K\n"), (1, "fetch", some "L\n"),
        (2, "checkout", none), (0, "checkout", none), (1, "checkout", none)]
    ∧ course.reports 3 = [firstReport Build.Sample.settings (Sample.unreachablePush "g/h"),
      lastReport Build.Sample.settings (Sample.unreachablePush "g/h") (.error .missingSshUrl)] :=
  ⟨run_keeps_keys Build.Sample.settings Sample.numbering 4 0 _, by decide +kernel,
    by decide +kernel, by decide +kernel⟩

/-- A build with a key but no address for it can fail for want of a workspace before it misses the
address; and a build without a key clones from the address for keys, if that is the only one. -/
theorem Course.not_always_missing :
    (let push := Sample.unreachablePush ".."
      let course := Sample.inTurn [(push, Sample.projectWith (some "K"))]
      (∀ job ∈ course.pool.jobs, job.phase.isFinished = true)
      ∧ push.repository.sshUrl = none
      ∧ course.reports 0 = [firstReport Build.Sample.settings push,
        lastReport Build.Sample.settings push (.error (.invalidRepository ".."))]
      ∧ course.reports 0 ≠ [firstReport Build.Sample.settings push,
        lastReport Build.Sample.settings push (.error .missingSshUrl)])
    ∧ let push :=
        { Build.Sample.pushTo "a/b" with repository := ⟨"a/b", "u", some "u", none, none⟩ }
      let course := Sample.inTurn [(push, Sample.projectWith none)]
      (course.state.visits.map GitVisit.call).head? = some (.clone "u" none)
      ∧ push.repository.sshUrl = some "u" := by
  refine ⟨⟨?_, rfl, ?_, ?_⟩, ?_, rfl⟩ <;> decide +kernel

end BuildHook.Dispatch
