import BuildHook.Proofs.Build.Sample
import BuildHook.Proofs.Build.Word
import BuildHook.Rehearsal.Stage

/-!
# Options of git processes

Git reads the words before the first `--` that begin with a hyphen as options. A word that comes
from a payload must not be read so: it has to stand behind a `--`, or begin otherwise.

## Main results

`run_shielded_iff` says when this holds of all git processes of a build: always of its clones and
its updates, and of its checkout unless the revision begins with a hyphen.
`run_not_always_shielded` is a build for which it does not hold.
-/

namespace BuildHook

namespace GitCall

/-- A word of the arguments: one that is always the same, or one that the payload gives. -/
inductive Word where
  | fixed (text : String)
  | given (text : String)

/-- The text of a word. -/
def Word.text : Word → String
  | .fixed text => text
  | .given text => text

/-- The arguments of a call, with their origin. -/
def words : GitCall → List Word
  | .clone url _ => [.fixed "clone", .fixed "--quiet", .fixed "--", .given url, .fixed "."]
  | .update _ => [.fixed "fetch", .fixed "--quiet", .fixed "--prune", .fixed "origin"]
  | .checkout revision =>
      [.fixed "-c", .fixed "advice.detachedHead=false", .fixed "checkout", .fixed "--force",
        .fixed "--quiet", .given revision, .fixed "--"]

/-- Whether a word begins like an option. -/
def isHyphenated (text : String) : Bool := ['-'].isPrefixOf text.toList

/-- The options among arguments. -/
def options (arguments : List String) : List String :=
  (arguments.takeWhile (· != "--")).filter isHyphenated

/-- The options that a call is meant to have. -/
def fixedOptions : GitCall → List String
  | .clone .. => ["--quiet"]
  | .update _ => ["--quiet", "--prune"]
  | .checkout _ => ["-c", "--force", "--quiet"]

/-- Whether each word that the payload gives stands behind a `--` or begins otherwise. -/
def IsShielded (call : GitCall) : Prop :=
  ∀ i text, call.words[i]? = some (.given text) →
    "--" ∈ call.arguments.take i ∨ isHyphenated text = false

theorem map_text_words (call : GitCall) : call.words.map Word.text = call.arguments := by
  cases call <;> rfl

theorem isShielded_clone (url : String) (key : Option String) : (clone url key).IsShielded := by
  intro i text found
  rcases i with _ | _ | _ | _ | _ | i
  case succ.succ.succ.zero => exact .inl (by simp [arguments])
  all_goals simp [words] at found

theorem isShielded_update (key : Option String) : (update key).IsShielded := by
  intro i text found
  rcases i with _ | _ | _ | _ | i
  all_goals simp [words] at found

/-- The revision stands before the only `--`. -/
theorem isShielded_checkout_iff (revision : String) :
    (checkout revision).IsShielded ↔ isHyphenated revision = false := by
  constructor
  · intro shielded
    refine (shielded 5 revision rfl).resolve_left ?_
    simp [arguments]
  · intro plain i text found
    rcases i with _ | _ | _ | _ | _ | _ | _ | i
    case succ.succ.succ.succ.succ.zero =>
      obtain rfl : revision = text := by simpa [words] using found
      exact .inr plain
    all_goals simp [words] at found

/-- Options are looked for word by word, up to a `--`. -/
theorem options_append {front : List String} (open_ended : "--" ∉ front) (rest : List String) :
    options (front ++ rest) = front.filter isHyphenated ++ options rest := by
  have passes : ∀ word ∈ front, (word != "--") = true := by
    intro word mem
    rw [bne_iff_ne]
    exact fun same => open_ended (same ▸ mem)
  rw [options, List.takeWhile_append_of_pos passes, List.filter_append]
  rfl

/-- A call whose payload is shielded has the options that it is meant to have. -/
theorem IsShielded.options_eq {call : GitCall} (shielded : call.IsShielded) :
    options call.arguments = call.fixedOptions := by
  cases call with
  | clone url key => rfl
  | update key => rfl
  | checkout revision =>
    have plain := (isShielded_checkout_iff revision).mp shielded
    have last : options [revision, "--"] = [] := by
      by_cases separator : revision = "--"
      · subst separator
        rfl
      · rw [options, List.takeWhile_cons_of_pos (by simpa using separator), List.filter_cons_of_neg
          (by simp [plain])]
        rfl
    have front : "--" ∉ ["-c", "advice.detachedHead=false", "checkout", "--force", "--quiet"] := by
      decide
    calc
      options (checkout revision).arguments = _ := options_append front [revision, "--"]
      _ = ["-c", "--force", "--quiet"] := by rw [last, List.append_nil]; decide

end GitCall

namespace Build

open Procedure

/-- The git call that a request comes to, with its directory, if it comes to one. -/
def Request.gitWork? : Request → Option (String × GitCall)
  | .clone url dest key => some (dest, .clone url (key.map StagedKey.path))
  | .update dest key => some (dest, .update (key.map StagedKey.path))
  | .checkout dest revision => some (dest, .checkout revision)
  | _ => none

/-- The git calls in a history, with their directories. -/
def gitWorkOf (h : List Exchange) : List (String × GitCall) :=
  h.filterMap fun x => x.question.gitWork?

/-- The git calls in a history. -/
def gitCallsOf (h : List Exchange) : List GitCall := (gitWorkOf h).map Prod.snd

theorem mem_of_mem_cut {letters : List Letter} {x : Exchange} (mem : x ∈ (cut letters).1) :
    ∃ letter ∈ letters, letter.call = some x := by
  induction letters with
  | nil => cases mem
  | cons letter rest ih =>
    rw [cut] at mem
    split at mem
    · exact ⟨letter, List.mem_cons_self, Option.mem_toList.mp mem⟩
    · rcases List.mem_append.mp mem with here | later
      · exact ⟨letter, List.mem_cons_self, Option.mem_toList.mp here⟩
      · obtain ⟨letter', member, call⟩ := ih later
        exact ⟨letter', List.mem_cons_of_mem _ member, call⟩

variable {settings : Settings} {push : Push} {project : ProjectRecord}

/-- Whether a letter checks out nothing but a certain revision. -/
def Letter.ChecksOut (revision : String) (letter : Letter) : Prop :=
  ∀ x ∈ letter.call, ∀ place other, x.question.gitWork? = some (place, .checkout other) →
    other = revision

/-- What the letters that bring a revision check out is this revision. -/
theorem checksOut_of_mem_fetchLetters (url dest revision : String) (key : Option StagedKey)
    (cloned updated checkedOut : Except GitError Unit) :
    ∀ letter ∈ fetchLetters url dest revision key cloned updated checkedOut,
      letter.ChecksOut revision := by
  have checkout (abort : Option BuildError) :
      Letter.ChecksOut revision ⟨some ⟨.checkout dest revision, checkedOut⟩, abort⟩ := by
    rintro x ⟨⟩ place other found
    cases found
    rfl
  intro letter mem
  simp only [fetchLetters, List.cons_append, List.mem_cons, List.mem_append, List.not_mem_nil,
    or_false] at mem
  rcases mem with rfl | mem | rfl
  · rintro x ⟨⟩ place other ⟨⟩
  · cases cloned with
    | ok done => cases mem
    | error failedClone =>
      obtain rfl := List.mem_singleton.mp mem
      rintro x ⟨⟩ place other ⟨⟩
  · exact checkout _

/-- What the word of a build checks out is the head commit. -/
theorem checksOut_of_mem_word (key : Option StagedKey) (answers : Answers) :
    ∀ letter ∈ word settings push project key answers,
      letter.ChecksOut push.headCommit.id := by
  intro letter mem
  simp only [word, revisionLetters, bindLetters, scriptLetters, List.mem_cons, List.mem_append,
    List.mem_map, List.not_mem_nil, or_false] at mem
  rcases mem with rfl | rfl | rfl | fetch | rfl | rfl | ⟨⟨name, value⟩, -, rfl⟩ | rfl | rfl
  case inr.inr.inr.inl => exact checksOut_of_mem_fetchLetters _ _ _ _ _ _ _ letter fetch
  all_goals rintro x ⟨⟩ place other ⟨⟩

/-- What a build checks out is the head commit. -/
theorem revision_of_mem_gitCallsOf {state : BuildState} {h : List Exchange}
    (hl : Leads (run settings push project) h (.done state)) {revision : String}
    (mem : .checkout revision ∈ gitCallsOf h) : revision = push.headCommit.id := by
  obtain ⟨⟨place, made⟩, worked, rfl⟩ := List.mem_map.mp mem
  obtain ⟨x, inside, call⟩ := List.mem_filterMap.mp worked
  rcases leads_run_spelled hl with ⟨content, cause, -, rfl, -⟩ | ⟨key, result, -, spelled, -⟩
  · obtain rfl := List.mem_singleton.mp inside
    cases call
  · obtain ⟨answers, spelled, -⟩ := spelled
    have work : x.question.kind = .work := by
      cases hq : x.question <;> rw [hq] at call <;> first | rfl | cases call
    have called : x ∈ (cut (word settings push project key answers)).1 := by
      rw [spelled]
      exact List.mem_filter.mpr ⟨inside, by simp [work]⟩
    obtain ⟨letter, member, found⟩ := mem_of_mem_cut called
    exact checksOut_of_mem_word key answers letter member x found place revision call

/-- In a build all that the payload gives to git is shielded, and git finds exactly the options that
are meant, unless the revision begins with a hyphen and the build comes to its checkout: what is
cloned and updated is always shielded. The words are those of the arguments. -/
theorem run_shielded_iff {σ : Type} (settings : Settings) (push : Push) (project : ProjectRecord)
    (answer : (r : Request) → σ → Reply r × σ) (start : σ) :
    let calls := gitCallsOf ((run settings push project).history answer start)
    (∀ call ∈ calls, call.words.map GitCall.Word.text = call.arguments)
    ∧ (∀ call ∈ calls, call ≠ .checkout push.headCommit.id →
      call.IsShielded ∧ GitCall.options call.arguments = call.fixedOptions)
    ∧ ((∀ call ∈ calls,
        call.IsShielded ∧ GitCall.options call.arguments = call.fixedOptions)
      ↔ (GitCall.isHyphenated push.headCommit.id = true →
        .checkout push.headCommit.id ∉ calls)) := by
  intro calls
  have shielded (call : GitCall) (mem : call ∈ calls)
      (other : call ≠ .checkout push.headCommit.id) : call.IsShielded := by
    cases call with
    | clone url key => exact GitCall.isShielded_clone url key
    | update key => exact GitCall.isShielded_update key
    | checkout revision =>
      rw [revision_of_mem_gitCallsOf (leads_history answer _ start) mem] at other
      exact absurd rfl other
  refine ⟨fun call _ => GitCall.map_text_words call, fun call mem other => ?_, ?_⟩
  · exact ⟨shielded call mem other, (shielded call mem other).options_eq⟩
  · constructor
    · intro all hyphenated mem
      have plain := (GitCall.isShielded_checkout_iff _).mp (all _ mem).1
      rw [hyphenated] at plain
      cases plain
    · intro unreached call mem
      have safe : call.IsShielded := by
        by_cases head : call = .checkout push.headCommit.id
        · subst head
          rw [GitCall.isShielded_checkout_iff, ← Bool.not_eq_true]
          exact fun hyphenated => unreached hyphenated mem
        · exact shielded call mem head
      exact ⟨safe, safe.options_eq⟩

/-- A request is answered by the git call that it comes to. -/
theorem answer_gitWork {r : Request} {dest : String} {call : GitCall}
    (work : r.gitWork? = some (dest, call)) (stage : Rehearsal.Stage) :
    (Rehearsal.Stage.answer r stage).2 = (stage.runGit call dest).2 := by
  cases r <;> cases work <;> rfl

/-- The arguments of a started git process. -/
def argumentsOf : Rehearsal.Started → Option (List String)
  | .git arguments _ _ _ => some arguments
  | .interpreter .. => none

namespace Sample

/-- A push whose head commit has a name like an option. -/
def hyphenatedPush : Push := { pushTo "a/b" with headCommit := ⟨"-b", none, none, none, none⟩ }

/-- The build of this push. -/
def hyphenatedBuild : Steps BuildState :=
  Build.run Sample.settings hyphenatedPush ⟨"a/b", "s", none⟩

/-- A rehearsal in which all git calls succeed. -/
def stage : Rehearsal.Stage := .create .empty [] .planned .planned "."

end Sample

/-- The revision of a payload can be read as an option: `-b` stands before the only `--` of the
checkout. -/
theorem run_not_always_shielded :
    (Sample.hyphenatedBuild.run Rehearsal.Stage.answer Sample.stage).2.started.filterMap argumentsOf
      = [["clone", "--quiet", "--", "u", "."],
        ["-c", "advice.detachedHead=false", "checkout", "--force", "--quiet", "-b", "--"]]
    ∧ GitCall.options (GitCall.checkout "-b").arguments = ["-c", "--force", "--quiet", "-b"]
    ∧ ¬ ∀ (settings : Settings) (push : Push) (project : ProjectRecord)
      (answer : (r : Request) → Rehearsal.Stage → Reply r × Rehearsal.Stage)
      (start : Rehearsal.Stage),
      ∀ call ∈ gitCallsOf ((Build.run settings push project).history answer start),
        call.IsShielded ∧ GitCall.options call.arguments = call.fixedOptions := by
  refine ⟨by decide +kernel, by decide, fun all => ?_⟩
  have calls : gitCallsOf (Sample.hyphenatedBuild.history Rehearsal.Stage.answer Sample.stage)
      = [.clone "u" none, .checkout "-b"] := by
    decide +kernel
  have reached : .checkout "-b"
      ∈ gitCallsOf (Sample.hyphenatedBuild.history Rehearsal.Stage.answer Sample.stage) := by
    rw [calls]
    exact List.mem_cons_of_mem _ List.mem_cons_self
  have safe := all _ _ _ _ _ _ reached
  have plain := (GitCall.isShielded_checkout_iff "-b").mp safe.1
  exact absurd plain (by decide)

end Build

end BuildHook
