import BuildHook.Config.Load
import Mathlib.Logic.Basic

/-!
# Loading keys with a configuration

Behind the configuration file itself, exactly the key files of projects without a key of their own
are read, in the order of the projects, up to the first one that cannot be read. If there is none,
each of these projects has the text of its file for its key, and all else is as it is configured.

## Main results

`loadKeys_loadable` and `loadKeys_lacking` say what loading the keys of a list of projects comes to,
`load_outcome` what loading a configuration does.
-/

namespace BuildHook

/-- What reading a text file comes to, by its path. -/
abbrev Files := String → Except IoError String

namespace ProjectEntry

/-- The file that the key of a project is read from, if it has no key of its own. -/
def keyFile? (project : ProjectEntry) : Option String :=
  match project.sshKey with
  | none => project.sshKeyFile
  | some _ => none

/-- Whether a project has no key of its own and its key file cannot be read. -/
structure LacksKey (files : Files) (project : ProjectEntry) (file : String) (cause : IoError) :
    Prop where
  without : project.sshKey = none
  named : project.sshKeyFile = some file
  unreadable : files file = .error cause

/-- Whether the key of a project can be loaded, if it is to be. -/
def IsLoadable (files : Files) (project : ProjectEntry) : Prop :=
  ∀ file cause, ¬ project.LacksKey files file cause

/-- A project with the text of its key file for its key, if it has no key of its own but a file. -/
def withKey (files : Files) (project : ProjectEntry) : ProjectEntry :=
  match project.sshKey, project.sshKeyFile with
  | none, some file => { project with sshKey := (files file).toOption }
  | _, _ => project

theorem keyFile?_eq_some_iff (project : ProjectEntry) (file : String) :
    project.keyFile? = some file ↔ project.sshKey = none ∧ project.sshKeyFile = some file := by
  unfold keyFile?
  cases project.sshKey <;> simp

end ProjectEntry

namespace Config

open Procedure

/-- Reads a file, and notes its path. -/
def consult (files : Files) (file : String) (read : List String) :
    Except IoError String × List String :=
  (files file, read ++ [file])

/-- What an error is about: the project whose key is missing, the path and the cause. -/
def LoadError.subjects : LoadError → List String
  | .unreadable path cause => [path, cause.message]
  | .unusable path _ => [path]
  | .keyUnreadable project path cause => [project, path, cause.message]

variable {files : Files}

theorem told_of_parts {whole before text after : String} (parts : whole = before ++ text ++ after) :
    text.toList <:+: whole.toList := by
  rw [parts, String.toList_append, String.toList_append]
  exact List.infix_append _ _ _

/-- The message of an error tells what the error is about. -/
theorem LoadError.subjects_told (e : LoadError) :
    ∀ subject ∈ e.subjects, subject.toList <:+: e.message.toList := by
  cases e with
  | unreadable path cause =>
    have at_path : (unreadable path cause).message
        = "Failed to read config file '" ++ path ++ ("': " ++ cause.message) :=
      String.append_assoc
    have at_cause : (unreadable path cause).message
        = "Failed to read config file '" ++ path ++ "': " ++ cause.message ++ "" :=
      String.append_empty.symm
    exact List.forall_mem_cons.mpr ⟨told_of_parts at_path,
      List.forall_mem_singleton.mpr (told_of_parts at_cause)⟩
  | unusable path fault =>
    have at_path : (unusable path fault).message = "Failed to parse config file '" ++ path
        ++ ("': TOML parsing error: " ++ fault.message) :=
      String.append_assoc
    exact List.forall_mem_singleton.mpr (told_of_parts at_path)
  | keyUnreadable project path cause =>
    have at_project : (keyUnreadable project path cause).message
        = "Failed to read SSH key for '" ++ project
          ++ ("' from '" ++ (path ++ ("': " ++ cause.message))) := by
      rw [← String.append_assoc, ← String.append_assoc, ← String.append_assoc]
      rfl
    have at_path : (keyUnreadable project path cause).message
        = "Failed to read SSH key for '" ++ project ++ "' from '" ++ path
          ++ ("': " ++ cause.message) :=
      String.append_assoc
    have at_cause : (keyUnreadable project path cause).message
        = "Failed to read SSH key for '" ++ project ++ "' from '" ++ path ++ "': " ++ cause.message
          ++ "" :=
      String.append_empty.symm
    exact List.forall_mem_cons.mpr ⟨told_of_parts at_project,
      List.forall_mem_cons.mpr ⟨told_of_parts at_path,
        List.forall_mem_singleton.mpr (told_of_parts at_cause)⟩⟩

/-- Either all keys can be loaded or there is a first project whose key cannot. -/
theorem loadable_or_first_lacking (files : Files) (projects : List ProjectEntry) :
    (∀ project ∈ projects, project.IsLoadable files) ∨
      ∃ before project after file cause, projects = before ++ project :: after
        ∧ (∀ earlier ∈ before, earlier.IsLoadable files) ∧ project.LacksKey files file cause := by
  induction projects with
  | nil => exact .inl nofun
  | cons project rest ih =>
    by_cases here : project.IsLoadable files
    · rcases ih with all | ⟨before, other, after, file, cause, rfl, earlier, lacks⟩
      · exact .inl (List.forall_mem_cons.mpr ⟨here, all⟩)
      · exact .inr ⟨project :: before, other, after, file, cause, rfl,
          List.forall_mem_cons.mpr ⟨here, earlier⟩, lacks⟩
    · simp only [ProjectEntry.IsLoadable, not_forall, not_not] at here
      obtain ⟨file, cause, lacks⟩ := here
      exact .inr ⟨[], project, rest, file, cause, rfl, nofun, lacks⟩

/-! ## The key of one project -/

theorem loadKey_loadable {project : ProjectEntry} (loadable : project.IsLoadable files)
    (read : List String) :
    (loadKey project).run (consult files) read
      = (.ok (project.withKey files), read ++ project.keyFile?.toList) := by
  unfold loadKey ProjectEntry.withKey ProjectEntry.keyFile?
  cases key : project.sshKey with
  | some text => simp [run, pure]
  | none =>
    cases named : project.sshKeyFile with
    | none => simp [run, pure]
    | some file =>
      change ((question file).andThen _).run _ _ = _
      rw [run_andThen]
      cases found : files file with
      | ok text => simp [question, run, consult, found, pure, Except.toOption]
      | error cause => exact absurd ⟨key, named, found⟩ (loadable file cause)

theorem loadKey_lacking {project : ProjectEntry} {file : String} {cause : IoError}
    (lacks : project.LacksKey files file cause) (read : List String) :
    (loadKey project).run (consult files) read
      = (.error (.keyUnreadable project.name file cause), read ++ project.keyFile?.toList) := by
  unfold loadKey ProjectEntry.keyFile?
  rw [lacks.without, lacks.named]
  change ((question file).andThen _).run _ _ = _
  rw [run_andThen]
  simp [question, run, consult, lacks.unreadable, pure]

/-! ## The keys of all projects -/

theorem loadKeys_loadable {projects : List ProjectEntry}
    (all : ∀ project ∈ projects, project.IsLoadable files) (read : List String) :
    (loadKeys projects).run (consult files) read
      = (.ok (projects.map (ProjectEntry.withKey files)),
        read ++ projects.filterMap ProjectEntry.keyFile?) := by
  induction projects generalizing read with
  | nil => simp [loadKeys, run, pure]
  | cons project rest ih =>
    obtain ⟨here, later⟩ := List.forall_mem_cons.mp all
    change ((loadKey project).andThen _).run _ _ = _
    rw [run_andThen, loadKey_loadable here]
    change ((loadKeys rest).andThen _).run _ _ = _
    rw [run_andThen, ih later]
    cases file : project.keyFile? <;> simp [run, pure, file]

/-- Loading ends at the first project whose key cannot be loaded. -/
theorem loadKeys_lacking {before : List ProjectEntry} {project : ProjectEntry}
    {file : String} {cause : IoError} (earlier : ∀ other ∈ before, other.IsLoadable files)
    (lacks : project.LacksKey files file cause) (after : List ProjectEntry) (read : List String) :
    (loadKeys (before ++ project :: after)).run (consult files) read
      = (.error (.keyUnreadable project.name file cause),
        read ++ (before ++ [project]).filterMap ProjectEntry.keyFile?) := by
  induction before generalizing read with
  | nil =>
    change ((loadKey project).andThen _).run _ _ = _
    rw [run_andThen, loadKey_lacking lacks]
    cases named : project.keyFile? <;> simp [run, pure, named]
  | cons other rest ih =>
    obtain ⟨here, later⟩ := List.forall_mem_cons.mp earlier
    change ((loadKey other).andThen _).run _ _ = _
    rw [run_andThen, loadKey_loadable here]
    change ((loadKeys (rest ++ project :: after)).andThen _).run _ _ = _
    rw [run_andThen, ih later]
    cases named : other.keyFile? <;> simp [run, pure, named]

/-! ## The whole configuration -/

theorem load_unreadable {path : String} {cause : IoError} (unreadable : files path = .error cause) :
    (load path).run (consult files) [] = (.error (.unreadable path cause), [path]) := by
  change ((question path).andThen _).run _ _ = _
  rw [run_andThen]
  simp [question, run, consult, unreadable, pure]

theorem load_unusable {path text : String} {fault : Fault} (readable : files path = .ok text)
    (unusable : ofToml text = .error fault) :
    (load path).run (consult files) [] = (.error (.unusable path fault), [path]) := by
  change ((question path).andThen _).run _ _ = _
  rw [run_andThen]
  simp [question, run, consult, readable, unusable, pure]

/-- Behind its file, a configuration is loaded as the keys of its projects are. -/
theorem load_usable {path text : String} {config : Config} (readable : files path = .ok text)
    (usable : ofToml text = .ok config) :
    (load path).run (consult files) []
      = (((loadKeys config.projects).run (consult files) [path]).1.map fun projects =>
          { config with projects },
        ((loadKeys config.projects).run (consult files) [path]).2) := by
  change ((question path).andThen _).run _ _ = _
  rw [run_andThen]
  simp only [question, run, consult, readable, usable, List.nil_append]
  change ((loadKeys config.projects).andThen _).run _ _ = _
  rw [run_andThen]
  cases ((loadKeys config.projects).run (consult files) [path]).1 <;> rfl

theorem load_loadable {path text : String} {config : Config} (readable : files path = .ok text)
    (usable : ofToml text = .ok config)
    (all : ∀ project ∈ config.projects, project.IsLoadable files) :
    (load path).run (consult files) []
      = (.ok { config with projects := config.projects.map (ProjectEntry.withKey files) },
        path :: config.projects.filterMap ProjectEntry.keyFile?) := by
  rw [load_usable readable usable, loadKeys_loadable all]
  rfl

theorem load_lacking {path text file : String} {config : Config} {cause : IoError}
    {before after : List ProjectEntry} {project : ProjectEntry} (readable : files path = .ok text)
    (usable : ofToml text = .ok config) (split : config.projects = before ++ project :: after)
    (earlier : ∀ other ∈ before, other.IsLoadable files)
    (lacks : project.LacksKey files file cause) :
    (load path).run (consult files) []
      = (.error (.keyUnreadable project.name file cause),
        path :: (before ++ [project]).filterMap ProjectEntry.keyFile?) := by
  rw [load_usable readable usable, split, loadKeys_lacking earlier lacks]
  rfl

/-- A configuration is loaded exactly if all keys can be. -/
theorem load_eq_ok_iff {path text : String} {config : Config} (readable : files path = .ok text)
    (usable : ofToml text = .ok config) (full : Config) (read : List String) :
    (load path).run (consult files) [] = (.ok full, read) ↔
      (∀ project ∈ config.projects, project.IsLoadable files)
        ∧ full = { config with projects := config.projects.map (ProjectEntry.withKey files) }
        ∧ read = path :: config.projects.filterMap ProjectEntry.keyFile? := by
  constructor
  · intro loaded
    rcases loadable_or_first_lacking files config.projects with
      all | ⟨before, project, after, file, cause, split, earlier, lacks⟩
    · rw [load_loadable readable usable all] at loaded
      cases loaded
      exact ⟨all, rfl, rfl⟩
    · rw [load_lacking readable usable split earlier lacks] at loaded
      cases loaded
  · rintro ⟨all, rfl, rfl⟩
    exact load_loadable readable usable all

/-- It fails to load exactly at the first project whose key cannot be loaded. -/
theorem load_eq_error_iff {path text : String} {config : Config} (readable : files path = .ok text)
    (usable : ofToml text = .ok config) (e : LoadError) (read : List String) :
    (load path).run (consult files) [] = (.error e, read) ↔
      ∃ before project after file cause, config.projects = before ++ project :: after
        ∧ (∀ earlier ∈ before, earlier.IsLoadable files) ∧ project.LacksKey files file cause
        ∧ e = .keyUnreadable project.name file cause
        ∧ read = path :: (before ++ [project]).filterMap ProjectEntry.keyFile? := by
  constructor
  · intro failed
    rcases loadable_or_first_lacking files config.projects with
      all | ⟨before, project, after, file, cause, split, earlier, lacks⟩
    · rw [load_loadable readable usable all] at failed
      cases failed
    · rw [load_lacking readable usable split earlier lacks] at failed
      cases failed
      exact ⟨before, project, after, file, cause, split, earlier, lacks, rfl, rfl⟩
  · rintro ⟨before, project, after, file, cause, split, earlier, lacks, rfl, rfl⟩
    exact load_lacking readable usable split earlier lacks

theorem load_fails_iff {path text : String} {config : Config} (readable : files path = .ok text)
    (usable : ofToml text = .ok config) :
    (∃ e, ((load path).run (consult files) []).1 = .error e) ↔
      ∃ project ∈ config.projects, ∃ file cause,
        project.sshKey = none ∧ project.sshKeyFile = some file ∧ files file = .error cause := by
  constructor
  · rintro ⟨e, failed⟩
    obtain ⟨before, project, after, file, cause, split, -, lacks, -⟩ :=
      (load_eq_error_iff readable usable e _).mp (Prod.ext failed rfl)
    have member : project ∈ config.projects := by
      rw [split]
      exact List.mem_append_right before List.mem_cons_self
    exact ⟨project, member, file, cause, lacks.without, lacks.named, lacks.unreadable⟩
  · rintro ⟨project, member, file, cause, without, named, unreadable⟩
    rcases loadable_or_first_lacking files config.projects with
      all | ⟨before, other, after, file, cause, split, earlier, lacks⟩
    · exact absurd ⟨without, named, unreadable⟩ (all project member file cause)
    · exact ⟨_, congrArg Prod.fst (load_lacking readable usable split earlier lacks)⟩

/-- What has been read stays noted. -/
theorem mem_run_of_mem {α : Type} (p : Reading α) {file : String} {read : List String}
    (noted : file ∈ read) : file ∈ (p.run (consult files) read).2 := by
  induction p generalizing read with
  | done result => exact noted
  | ask asked next ih => exact ih _ (List.mem_append_left [asked] noted)

/-- Nothing matters but the files that are read. -/
theorem run_congr {α : Type} (other : Files) (p : Reading α) (read : List String)
    (same : ∀ file ∈ (p.run (consult files) read).2, other file = files file) :
    p.run (consult other) read = p.run (consult files) read := by
  induction p generalizing read with
  | done result => rfl
  | ask asked next ih =>
    have here : other asked = files asked :=
      same asked (mem_run_of_mem (next (files asked)) (List.mem_append_right read (by simp)))
    change (next (other asked)).run (consult other) (read ++ [asked]) = _
    rw [here]
    exact ih _ _ same

/-- A configuration whose file cannot be read or used is not loaded, and nothing else is read. Any
other one is loaded exactly if no project without a key of its own names a key file that cannot be
read; it then has the text of its file for the key of each such project, and all else, with the
order of the projects, is as it is configured. If it is not loaded, the error is about the first
such project, its file and the cause. Read are, behind the configuration file, the key files of the
projects without a key of their own, in order, up to the first one that cannot be read, and no other
file has any influence. Every message tells what its error is about. -/
theorem load_outcome (files : Files) (path : String) :
    let loaded := (load path).run (consult files) []
    (∀ cause, files path = .error cause → loaded = (.error (.unreadable path cause), [path]))
    ∧ (∀ text fault, files path = .ok text → ofToml text = .error fault →
      loaded = (.error (.unusable path fault), [path]))
    ∧ (∀ text config, files path = .ok text → ofToml text = .ok config →
      ((∃ e, loaded.1 = .error e) ↔ ∃ project ∈ config.projects, ∃ file cause,
        project.sshKey = none ∧ project.sshKeyFile = some file ∧ files file = .error cause)
      ∧ (∀ e read, loaded = (.error e, read) ↔
        ∃ before project after file cause, config.projects = before ++ project :: after
          ∧ (∀ earlier ∈ before, earlier.IsLoadable files) ∧ project.LacksKey files file cause
          ∧ e = .keyUnreadable project.name file cause
          ∧ read = path :: (before ++ [project]).filterMap ProjectEntry.keyFile?)
      ∧ ∀ full read, loaded = (.ok full, read) ↔
        (∀ project ∈ config.projects, project.IsLoadable files)
          ∧ full = { config with projects := config.projects.map (ProjectEntry.withKey files) }
          ∧ read = path :: config.projects.filterMap ProjectEntry.keyFile?)
    ∧ (∀ project file, ProjectEntry.keyFile? project = some file ↔
      project.sshKey = none ∧ project.sshKeyFile = some file)
    ∧ (∀ e, loaded.1 = .error e → ∀ subject ∈ e.subjects, subject.toList <:+: e.message.toList)
    ∧ ∀ other : Files, (∀ file ∈ loaded.2, other file = files file) →
      (load path).run (consult other) [] = loaded := by
  intro loaded
  refine ⟨fun _ => load_unreadable, fun _ _ => load_unusable, ?_,
    ProjectEntry.keyFile?_eq_some_iff, fun e _ => e.subjects_told,
    fun other => run_congr other (load path) []⟩
  intro text config readable usable
  exact ⟨load_fails_iff readable usable, load_eq_error_iff readable usable,
    load_eq_ok_iff readable usable⟩

namespace Sample

/-- A configuration whose first project has an empty key of its own; the others have key files. -/
def document : String :=
  "[[project]]\nname = \"a/b\"\nssh_key = \"\"\nssh_key_file = \"gone\"\n" ++
  "[[project]]\nname = \"c/d\"\nssh_key_file = \"k\"\n" ++
  "[[project]]\nname = \"e/f\"\nssh_key_file = \"gone\"\n" ++
  "[[project]]\nname = \"g/h\"\nssh_key_file = \"lost\"\n"

/-- The projects of this configuration. -/
def projects : List ProjectEntry :=
  [⟨"a/b", "default", "", some "", some "gone"⟩, ⟨"c/d", "default", "", none, some "k"⟩,
    ⟨"e/f", "default", "", none, some "gone"⟩, ⟨"g/h", "default", "", none, some "lost"⟩]

/-- Files of which only the configuration and one key file can be read. -/
def disk : Files := fun path =>
  if path = "config" then .ok document
  else if path = "k" then .ok "K\n"
  else .error (.os 2)

end Sample

/-- The third project is the first one without a key, though the file of the first one is missing
too; the file of the fourth one is not tried. -/
theorem load_outcome_third_project :
    Sample.disk "config" = .ok Sample.document
    ∧ (ofToml Sample.document).toOption.map Config.projects = some Sample.projects
    ∧ (load "config").run (consult Sample.disk) []
      = (.error (.keyUnreadable "e/f" "gone" (.os 2)), ["config", "k", "gone"]) := by
  have readable : Sample.disk "config" = .ok Sample.document := if_pos rfl
  have projects : (ofToml Sample.document).toOption.map Config.projects = some Sample.projects := by
    decide +kernel
  refine ⟨readable, projects, ?_⟩
  obtain ⟨config, found, same⟩ := Option.map_eq_some_iff.mp projects
  have usable : ofToml Sample.document = .ok config := by
    cases parsed : ofToml Sample.document with
    | ok other =>
      rw [parsed] at found
      exact congrArg Except.ok (Option.some.inj found)
    | error fault =>
      rw [parsed] at found
      cases found
  have first_lacking := ((load_outcome Sample.disk "config").2.2.1 _ config readable usable).2.1
  apply (first_lacking _ _).mpr
  refine ⟨Sample.projects.take 2, ⟨"e/f", "default", "", none, some "gone"⟩,
    Sample.projects.drop 3, "gone", .os 2, same, ?_, ⟨rfl, rfl, rfl⟩, rfl, by decide⟩
  intro earlier member file cause lacks
  rcases List.mem_cons.mp member with rfl | second
  · cases lacks.without
  · obtain rfl := List.mem_singleton.mp second
    obtain rfl : "k" = file := Option.some.inj lacks.named
    cases lacks.unreadable

end Config

end BuildHook
