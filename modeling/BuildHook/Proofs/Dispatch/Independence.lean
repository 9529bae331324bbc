import BuildHook.Proofs.Build.Collaborators
import BuildHook.Proofs.Build.Sample
import BuildHook.Proofs.Dispatch.Gates

/-!
# Builds that do not disturb each other

Builds whose workspaces are apart share permits, locks and a file tree, in which they make common
directories above their workspaces, one call at a time. Still each of them calls and is answered the
same as if it had been dispatched alone, whatever the others do and fail at, and in whatever order.

## Main results

`Schedule.independent` compares the same build in any two courses, one of which may dispatch nothing
else; `Schedule.not_always_independent` shows where the cache root and symbolic links must not lead.
-/

namespace BuildHook.Dispatch

open BuildHook.Build (Alike Careful Collaborators masked workspaceOf)
open BuildHook.Path (Apart Beside descent isStraight)
open Build.Collaborators (InOrder Placed World)
open FileTree (Answers Comes)
open Procedure

variable {τ : Type}

/-- What a build calls and is answered, wherever its key is staged, and how it ends, if it is the
only one in a file tree. -/
def alone (settings : Build.Settings) (collaborators : Collaborators) (keyFiles : Nat → String)
    (tree : FileTree) (build : Push × ProjectRecord) : List Build.Exchange × BuildState :=
  let steps := Build.run settings build.1 build.2
  let answers := unlocked (collaborators.answer keyFiles 0)
  ((withoutLocks (steps.history answers (.fresh tree))).map masked,
    (steps.run answers (.fresh tree)).1)

/-- What a build has still to do, if it was dispatched, or is going to do. -/
def Pool.stepsOf (settings : Build.Settings) (pool : Pool) (i : Nat)
    (build : Push × ProjectRecord) : Build.Steps BuildState :=
  match pool.jobs[i]? with
  | some job => job.phase.steps
  | none => Build.run settings build.1 build.2

/-- A build sees the same of its workspace as its double; while it is having it made, it will be
answered the same, and see the same then. -/
inductive Agrees (workspace : Option String) (tree other : FileTree) :
    Option Creation → Build.Steps BuildState → Prop
  | same {steps}
      (sight : ∀ dest, workspace = some dest → tree.sight dest = other.sight dest) :
      Agrees workspace tree other none steps
  | making {dest call left next} (here : workspace = some dest)
      (comes : Comes (descent dest) (Answers dest (other.sight dest)) (.ask call left) tree) :
      Agrees workspace tree other (some (.ask call left)) (.ask (.makeDirectories dest) next)

/-- A build among others and its double, which is run alone, have called the same and see the same
of their workspace. -/
structure Mirrors (workspace : Option String) (build : Nat) (world : World)
    (steps : Build.Steps BuildState) (single : World) (double : Build.Steps BuildState)
    (made : Bool) : Prop where
  alike : Alike steps double
  careful : Careful workspace made steps
  calls : world.calls build = single.calls 0
  order : ∀ dest, workspace = some dest → InOrder dest made single.tree
  agrees : Agrees workspace world.tree single.tree (world.making build) steps

namespace Mirrors

variable {collaborators : Collaborators} {keyFiles otherFiles : Nat → String}
  {workspace other : Option String} {build : Nat} {world world' single : World}
  {steps steps' double : Build.Steps BuildState} {made : Bool} {exchanges : List Build.Exchange}

/-- Unless a build is having its workspace made, it sees the same of it as its double. -/
theorem sight {r : Build.Request} {next : Build.Reply r → Build.Steps BuildState}
    (mirrors : Mirrors workspace build world (.ask r next) single double made)
    (idle : ∀ path, r ≠ .makeDirectories path) :
    world.making build = none
    ∧ ∀ dest, workspace = some dest → world.tree.sight dest = single.tree.sight dest := by
  have agrees := mirrors.agrees
  generalize world.making build = left at agrees
  cases agrees with
  | same sight => exact ⟨rfl, sight⟩
  | making => exact absurd rfl (idle _)

/-- What is left of the making of a workspace comes to what its double sees. -/
theorem comes {dest : String}
    {next : Build.Reply (.makeDirectories dest) → Build.Steps BuildState}
    (mirrors : Mirrors workspace build world (.ask (.makeDirectories dest) next) single double made)
    (placed : Placed workspace) :
    workspace = some dest
    ∧ Comes (descent dest) (Answers dest (single.tree.sight dest))
      ((world.making build).getD (.ofPath dest)) world.tree := by
  obtain ⟨place, here, inside, -⟩ := mirrors.careful.1 rfl
  obtain rfl : dest = place := inside
  refine ⟨here, ?_⟩
  have agrees := mirrors.agrees
  generalize world.making build = left at agrees
  cases agrees with
  | same sight =>
    obtain ⟨straight, named⟩ := placed dest here
    have same := sight dest here
    rw [← same]
    exact FileTree.comes_ofPath straight named (same ▸ (mirrors.order dest here).plain.isClear)
  | making _ comes => exact comes

/-- A build that has its workspace made is answered the same as its double in the end, which has not
begun to make it before. -/
theorem making (otherFiles : Nat → String) {dest : String}
    {next : Build.Reply (.makeDirectories dest) → Build.Steps BuildState}
    (mirrors : Mirrors workspace build world (.ask (.makeDirectories dest) next) single double made)
    (placed : Placed workspace) :
    let attended := collaborators.attend keyFiles build (.makeDirectories dest) world
    ∃ h single' double' made',
      (withoutLocks h).map masked
        = (attended.1.elim [] fun reply => [⟨.makeDirectories dest, reply⟩]).map masked
      ∧ Reaches (unlocked (collaborators.answer otherFiles 0)) double single h double' single'
      ∧ Mirrors workspace build attended.2
        (attended.1.elim (.ask (.makeDirectories dest) next) next) single' double' made' := by
  obtain ⟨here, comes⟩ := mirrors.comes placed
  obtain ⟨straight, named⟩ := placed dest here
  obtain ⟨alike, ⟨careful, later⟩, calls, order, -⟩ := mirrors
  obtain ⟨tree, -, ⟨reply, answers, attended⟩ | ⟨call, left, comes, attended⟩⟩ :=
    collaborators.attend_makeDirectories keyFiles comes
  · rw [attended]
    cases alike with
    | @ask _ r' _ next' same tail =>
      obtain rfl : r' = .makeDirectories dest := by
        cases r' <;> cases same
        rfl
      have alone := FileTree.makeDirectories_sight straight named (order dest here).plain.isClear
      obtain rfl : reply = (single.tree.makeDirectories dest).1 :=
        answers.answer.trans alone.answer.symm
      refine ⟨[⟨.makeDirectories dest, (single.tree.makeDirectories dest).1⟩], _, _,
        made || Build.makes ⟨.makeDirectories dest, (single.tree.makeDirectories dest).1⟩, rfl,
        .ask (unlocked (collaborators.answer otherFiles 0)) _ next' single, tail _ _ rfl,
        later _, ?_, ?_, ?_⟩
      · simp [World.note, World.leave, calls, unlocked, Collaborators.answer, Collaborators.act]
      · rintro _ here'
        obtain rfl := Option.some.inj (here.symm.trans here')
        exact Build.Collaborators.inOrder_makeDirectories straight named (order dest here)
      · simp only [World.note, World.leave, if_true]
        refine .same fun place here' => ?_
        obtain rfl := Option.some.inj (here.symm.trans here')
        exact answers.sight.trans alone.sight.symm
  · rw [attended]
    refine ⟨[], single, double, made, rfl, .refl _ _, alike, ⟨careful, later⟩, calls, order, ?_⟩
    simp only [World.leave, if_true]
    exact .making here comes

/-- A build that is answered is answered the same as its double. -/
theorem answered (keep : collaborators.LinkNoDefinition) (otherFiles : Nat → String)
    {r : Build.Request} {next : Build.Reply r → Build.Steps BuildState}
    (mirrors : Mirrors workspace build world (.ask r next) single double made)
    (placed : Placed workspace) (idle : r.kind ≠ .lock)
    (elsewhere : ∀ path, r ≠ .makeDirectories path) :
    ∃ h single' double' made',
      (withoutLocks h).map masked
        = [masked ⟨r, (collaborators.answer keyFiles build r world).1⟩]
      ∧ Reaches (unlocked (collaborators.answer otherFiles 0)) double single h double' single'
      ∧ Mirrors workspace build (collaborators.answer keyFiles build r world).2
        (next (collaborators.answer keyFiles build r world).1) single' double' made' := by
  obtain ⟨none, sight⟩ := mirrors.sight elsewhere
  obtain ⟨alike, ⟨careful, later⟩, calls, order, -⟩ := mirrors
  cases alike with
  | @ask _ r' _ next' same tail =>
    have idle' : r'.kind ≠ .lock := by rwa [← Build.kind_masked, ← same, Build.kind_masked]
    obtain ⟨answers, after⟩ := Build.Collaborators.act_double keep (keyFiles build) (otherFiles 0)
      (world.calls build) placed same elsewhere careful order sight
    have answers' : masked ⟨r, (collaborators.answer keyFiles build r world).1⟩
        = masked ⟨r', (collaborators.answer otherFiles 0 r' single).1⟩ := by
      rw [calls] at answers
      simpa only [Collaborators.answer, calls] using answers
    have unmade (reply : Build.Reply r) : Build.makes ⟨r, reply⟩ = false := by
      cases r <;> first | rfl | exact absurd rfl (elsewhere _)
    have reaches := Reaches.ask (unlocked (collaborators.answer otherFiles 0)) r' next' single
    rw [unlocked_of_not_lock _ idle'] at reaches
    refine ⟨_, _, _, made, ?_, reaches, tail _ _ answers', ?_, ?_, fun dest hd => ?_, ?_⟩
    · simp [withoutLocks, idle', answers']
    · have careful := later (collaborators.answer keyFiles build r world).1
      rwa [unmade, Bool.or_false] at careful
    · simp only [Collaborators.answer, World.note, if_true, calls] at answers' ⊢
      rw [answers']
    · simpa only [Collaborators.answer, World.note, calls] using (after dest hd).2
    · show Agrees _ _ _ (world.making build) _
      rw [none]
      exact .same fun dest hd => by
        simpa only [Collaborators.answer, World.note, calls] using (after dest hd).1

/-- A build that the lock lets go on goes on as its double does. -/
theorem passes {r : Build.Request} {next : Build.Reply r → Build.Steps BuildState}
    (mirrors : Mirrors workspace build world (.ask r next) single double made)
    (lock : r.kind = .lock) :
    ∃ next', double = .ask r next'
      ∧ ∀ reply, Mirrors workspace build world (next reply) single (next' reply) made := by
  obtain ⟨none, sight⟩ := mirrors.sight fun path same => by
    rw [same] at lock
    cases lock
  obtain ⟨alike, ⟨-, later⟩, calls, order, -⟩ := mirrors
  cases alike with
  | @ask _ r' _ next' same tail =>
    obtain rfl : r' = r := by
      cases r with
      | enter place =>
        cases r' <;> cases same
        rfl
      | leave place =>
        cases r' <;> cases same
        rfl
      | _ => cases lock
    have unmade (reply : Build.Reply r') : Build.makes ⟨r', reply⟩ = false := by
      cases r' <;> first | rfl | cases lock
    refine ⟨next', rfl, fun reply => ⟨tail reply reply rfl, ?_, calls, order, none ▸ .same sight⟩⟩
    have careful := later reply
    rwa [unmade, Bool.or_false] at careful

/-- A build that goes on goes on as its double does. -/
theorem goes_on (keep : collaborators.LinkNoDefinition) (otherFiles : Nat → String)
    (mirrors : Mirrors workspace build world steps single double made)
    (placed : Placed workspace)
    (stride : Stride (collaborators.attend keyFiles build) steps world exchanges steps' world') :
    ∃ h single' double' made', (withoutLocks h).map masked = exchanges.map masked
      ∧ Reaches (unlocked (collaborators.answer otherFiles 0)) double single h double' single'
      ∧ Mirrors workspace build world' steps' single' double' made' := by
  cases stride with
  | waits => exact ⟨[], single, double, made, rfl, .refl _ _, mirrors⟩
  | @entered place =>
    obtain ⟨next', rfl, passed⟩ := mirrors.passes rfl
    exact ⟨[⟨.enter place, ()⟩], single, next' (), made, rfl, .ask _ _ _ _, passed ()⟩
  | @left place =>
    obtain ⟨next', rfl, passed⟩ := mirrors.passes rfl
    exact ⟨[⟨.leave place, ()⟩], single, next' (), made, rfl, .ask _ _ _ _, passed ()⟩
  | @asked r next _ idle =>
    by_cases elsewhere : ∀ path, r ≠ .makeDirectories path
    · rw [Build.Collaborators.attend_of_ne elsewhere]
      exact mirrors.answered keep otherFiles placed idle elsewhere
    · obtain ⟨dest, rfl⟩ := Classical.not_forall_not.mp elsewhere
      exact mirrors.making otherFiles placed

/-- What a build does spares every way beside its workspace. -/
theorem spares (mirrors : Mirrors workspace build world steps single double made)
    (placed : Placed workspace) {names : List (List Char)}
    (beside : ∀ dest, workspace = some dest →
      ¬ names <+: descent dest ∧ ¬ descent dest <+: names)
    (stride : Stride (collaborators.attend keyFiles build) steps world exchanges steps' world') :
    FileTree.Spares names world.tree world'.tree := by
  cases stride with
  | waits => exact .refl _ _
  | entered => exact .refl _ _
  | left => exact .refl _ _
  | @asked r next _ idle =>
    by_cases elsewhere : ∀ path, r ≠ .makeDirectories path
    · obtain ⟨-, sight⟩ := mirrors.sight elsewhere
      rw [Build.Collaborators.attend_of_ne elsewhere]
      show FileTree.Spares names world.tree
        (collaborators.act (keyFiles build) (world.calls build) r world.tree).2
      by_cases work : r.kind = .work
      · obtain ⟨dest, here, inside, -⟩ := mirrors.careful.1 work
        have clear := (mirrors.order dest here).plain.isClear
        rw [← sight dest here] at clear
        exact Build.Collaborators.act_beside (placed dest here).1 clear (fun _ => inside)
          elsewhere names (beside dest here).1 (beside dest here).2
      · rw [(Build.Collaborators.act_idle collaborators (keyFiles build) (world.calls build) work
          world.tree world.tree).2]
        exact .refl _ _
    · obtain ⟨dest, rfl⟩ := Classical.not_forall_not.mp elsewhere
      obtain ⟨here, comes⟩ := mirrors.comes placed
      obtain ⟨tree, kept, ⟨reply, -, attended⟩ | ⟨call, left, -, attended⟩⟩ :=
        collaborators.attend_makeDirectories keyFiles comes <;>
      · rw [attended]
        exact kept names (beside dest here).1 (beside dest here).2

/-- What another build does does not concern a build whose workspace is beside. -/
theorem stays (mirrors : Mirrors workspace build world steps single double made)
    {busy : Nat} (different : busy ≠ build)
    {rest rest' : Build.Steps BuildState} {single' : World} {double' : Build.Steps BuildState}
    {now : Bool} (mirrors' : Mirrors other busy world rest single' double' now)
    (placed : Placed other)
    (beside : ∀ dest place, workspace = some dest → other = some place → Beside dest place)
    (stride : Stride (collaborators.attend keyFiles busy) rest world exchanges rest' world') :
    Mirrors workspace build world' steps single double made := by
  have spares (dest : String) (hd : workspace = some dest) :
      FileTree.Spares (descent dest) world.tree world'.tree :=
    mirrors'.spares placed (fun place hp =>
      ⟨(beside dest place hd hp).outside, (beside dest place hd hp).above⟩) stride
  obtain ⟨calls, making⟩ : world'.calls build = world.calls build
      ∧ world'.making build = world.making build := by
    cases stride with
    | asked => exact collaborators.attend_other keyFiles (Ne.symm different) _ _
    | _ => exact ⟨rfl, rfl⟩
  refine ⟨mirrors.alike, mirrors.careful, calls.trans mirrors.calls, mirrors.order, ?_⟩
  have agrees := mirrors.agrees
  rw [making]
  generalize world.making build = left at agrees ⊢
  cases agrees with
  | same sight =>
    exact .same fun dest hd => (FileTree.sight_of_spares (spares dest hd)).trans (sight dest hd)
  | making here comes => exact .making here (comes.later FileTree.Spares.trans (spares _ here))

end Mirrors

namespace Pool

variable {settings : Build.Settings} {pool : Pool} {build : Nat} {push : Push}
  {project : ProjectRecord}

/-- A dispatched build has still to do all that it is going to do. -/
theorem stepsOf_dispatch {after : Pool}
    (dispatched : after.jobs
      = pool.jobs ++ [⟨push, project, .waiting (Build.run settings push project)⟩])
    {i : Nat} {source : Push × ProjectRecord}
    (same : i = pool.jobs.length → source = (push, project)) :
    after.stepsOf settings i source = pool.stepsOf settings i source := by
  unfold stepsOf
  rw [dispatched]
  rcases Nat.lt_trichotomy i pool.jobs.length with before | here | behind
  · rw [List.getElem?_append_left before]
  · simp [here, same here, Phase.steps]
  · rw [List.getElem?_eq_none (by simp; omega), List.getElem?_eq_none (by omega)]

/-- What is left of a build is what it has still to do. -/
theorem stepsOf_modify (pool : Pool) {after : Pool} {phase : Phase}
    (modified : after.jobs = pool.jobs.modify build fun job => { job with phase })
    (found : build < pool.jobs.length) (i : Nat) (source : Push × ProjectRecord) :
    after.stepsOf settings i source
      = if i = build then phase.steps else pool.stepsOf settings i source := by
  unfold stepsOf
  rw [modified, List.getElem?_modify]
  by_cases same : i = build
  · subst same
    simp [found]
  · simp [same, Ne.symm same]

/-- A build that begins has still to do all that it was going to do. -/
theorem stepsOf_start {after : Pool} {steps : Build.Steps BuildState}
    (waits : pool.jobs[build]? = some ⟨push, project, .waiting steps⟩)
    (modified : after.jobs
      = pool.jobs.modify build fun job => { job with phase := .running steps })
    (i : Nat) (source : Push × ProjectRecord) :
    after.stepsOf settings i source = pool.stepsOf settings i source := by
  rw [stepsOf_modify pool modified (List.getElem?_eq_some_iff.mp waits).1]
  split
  · next same =>
    rw [same, stepsOf, waits]
    rfl
  · rfl

end Pool

/-- What a move behind gates comes to for the builds that have been or will be dispatched: nothing,
or one of them goes on. -/
inductive Turn {σ : Type} (settings : Build.Settings)
    (attend : Nat → (r : Build.Request) → σ → Option (Build.Reply r) × σ)
    (builds : List (Push × ProjectRecord)) (course after : Course (σ × τ)) : Prop
  | idle (log : after.log = course.log) (state : after.state.1 = course.state.1)
      (steps : ∀ i source, builds[i]? = some source →
        after.pool.stepsOf settings i source = course.pool.stepsOf settings i source)
  | goes {busy exchanges rest'} (dispatched : busy < course.pool.jobs.length)
      (log : after.log = course.log ++ entries busy exchanges)
      (stride : ∀ source, Stride (attend busy) (course.pool.stepsOf settings busy source)
        course.state.1 exchanges rest' after.state.1)
      (steps : ∀ i source, after.pool.stepsOf settings i source
        = if i = busy then rest' else course.pool.stepsOf settings i source)

namespace Course

variable {settings : Build.Settings} {builds : List (Push × ProjectRecord)}

theorem after_turn {σ : Type}
    {attend : Nat → (r : Build.Request) → σ → Option (Build.Reply r) × σ}
    {opens : Nat → Build.Request → σ × τ → Bool × τ} (course : Course (σ × τ)) (move : Move (σ × τ))
    (next : ∀ push project, move = .dispatch push project →
      builds[course.pool.jobs.length]? = some (push, project))
    (untouched : ∀ f, move = .change f → ∀ state, (f state).1 = state.1) :
    Turn settings attend builds course (course.after settings (held attend opens) move) := by
  have advance := after_advance settings attend opens course move untouched
  generalize course.after settings (held attend opens) move = after at advance
  cases advance with
  | @dispatched push project jobs log state =>
    refine .idle log state fun i source known => Pool.stepsOf_dispatch jobs ?_
    rintro rfl
    exact Option.some.inj (known.symm.trans (next push project rfl))
  | started waits free jobs log state =>
    exact .idle log state fun i source _ => Pool.stepsOf_start waits jobs i source
  | @went build _ _ _ exchanges rest' runs stride jobs log =>
    have dispatched := (List.getElem?_eq_some_iff.mp runs).1
    have goes_on (source : Push × ProjectRecord) :
        Stride (attend build) (course.pool.stepsOf settings build source) course.state.1 exchanges
          rest' after.state.1 := by
      rw [Pool.stepsOf, runs]
      exact stride
    refine .goes dispatched log goes_on fun i source => ?_
    have steps := @Pool.stepsOf_modify settings build course.pool _ _ jobs dispatched i source
    rwa [Phase.steps_ofSteps] at steps
  | idle jobs log state =>
    refine .idle log state fun i source _ => ?_
    rw [Pool.stepsOf, Pool.stepsOf, jobs]

/-- A build of a course has a double that is run alone and has come as far. -/
def HasDouble (settings : Build.Settings) (collaborators : Collaborators)
    (otherFiles : Nat → String) (tree : FileTree) (course : Course (World × τ)) (i : Nat)
    (source : Push × ProjectRecord) : Prop :=
  ∃ h single double made, (withoutLocks h).map masked = (course.calls i).map masked
    ∧ Reaches (unlocked (collaborators.answer otherFiles 0))
      (Build.run settings source.1 source.2) (.fresh tree) h double single
    ∧ Mirrors (workspaceOf settings source.1) i course.state.1
      (course.pool.stepsOf settings i source) single double made

theorem HasDouble.create {collaborators : Collaborators} {otherFiles : Nat → String}
    {tree : FileTree} (maxConcurrent : Nat) (gates : τ) (i : Nat)
    {source : Push × ProjectRecord}
    (order : ∀ dest, workspaceOf settings source.1 = some dest → InOrder dest false tree) :
    (Course.create maxConcurrent (World.fresh tree, gates)).HasDouble settings collaborators
      otherFiles tree i source :=
  ⟨[], .fresh tree, Build.run settings source.1 source.2, false, rfl, .refl _ _,
    Build.run_alike settings source.1 source.2, Build.run_careful settings source.1 source.2, rfl,
    order, .same fun _ _ => rfl⟩

section Double

variable {collaborators : Collaborators} {keyFiles otherFiles : Nat → String} {tree : FileTree}
  (keep : collaborators.LinkNoDefinition)
  (placed : ∀ source ∈ builds, Placed (workspaceOf settings source.1))
  (beside : ∀ {i j : Nat} {first second : Push × ProjectRecord}, builds[i]? = some first →
    builds[j]? = some second → i ≠ j → ∀ dest place,
    workspaceOf settings first.1 = some dest → workspaceOf settings second.1 = some place →
    Beside dest place)

include keep placed beside

/-- Whatever happens, every build keeps its double. -/
theorem HasDouble.turn {course after : Course (World × τ)}
    (turn : Turn settings (collaborators.attend keyFiles) builds course after)
    (known : course.pool.jobs.length ≤ builds.length)
    (doubles : ∀ {i source}, builds[i]? = some source →
      course.HasDouble settings collaborators otherFiles tree i source)
    {i : Nat} {source : Push × ProjectRecord} (found : builds[i]? = some source) :
    after.HasDouble settings collaborators otherFiles tree i source := by
  obtain ⟨h, single, double, made, calls, reaches, mirrors⟩ := doubles found
  cases turn with
  | idle log state steps =>
    refine ⟨h, single, double, made, ?_, reaches, ?_⟩
    · rw [calls, calls_of_same_log log]
    · rwa [steps i source found, state]
  | @goes busy exchanges rest' dispatched log stride steps =>
    have here := placed source (List.mem_of_getElem? found)
    rw [HasDouble, calls_of_log log, steps]
    by_cases same : i = busy
    · subst same
      obtain ⟨h', single', double', made', calls', reaches', mirrors'⟩ :=
        mirrors.goes_on keep otherFiles here (stride source)
      refine ⟨h ++ h', single', double', made', ?_, reaches.append reaches', ?_⟩
      · rw [withoutLocks_append, List.map_append, calls, calls', if_pos rfl, List.map_append]
      · rwa [if_pos rfl]
    · have inside : busy < builds.length := Nat.lt_of_lt_of_le dispatched known
      have found' : builds[busy]? = some builds[busy] := List.getElem?_eq_getElem inside
      obtain ⟨_, _, _, _, _, _, mirrors'⟩ := doubles found'
      refine ⟨h, single, double, made, ?_, reaches, ?_⟩
      · rw [calls, if_neg (Ne.symm same), List.append_nil]
      · rw [if_neg same]
        exact mirrors.stays (Ne.symm same) mirrors' (placed _ (List.mem_of_getElem? found'))
          (beside found found' same) (stride builds[busy])

theorem HasDouble.run {opens : Nat → Build.Request → World × τ → Bool × τ}
    {course : Course (World × τ)} (moves : List (Move (World × τ)))
    (to_come : course.pool.jobs.map (fun job => (job.push, job.project))
      ++ moves.flatMap Move.builds = builds)
    (untouched : ∀ f, .change f ∈ moves → ∀ state, (f state).1 = state.1)
    (doubles : ∀ {i source}, builds[i]? = some source →
      course.HasDouble settings collaborators otherFiles tree i source)
    {i : Nat} {source : Push × ProjectRecord} (found : builds[i]? = some source) :
    (course.run settings (held (collaborators.attend keyFiles) opens) moves).HasDouble settings
      collaborators otherFiles tree i source := by
  induction moves generalizing course with
  | nil => exact doubles found
  | cons move moves ih =>
    obtain ⟨answers, -, next⟩ :=
      after_next settings (held (collaborators.attend keyFiles) opens) course move
    have known : course.pool.jobs.length ≤ builds.length := by
      rw [← to_come]
      simp
    have turn : Turn settings (collaborators.attend keyFiles) builds course
        (course.after settings (held (collaborators.attend keyFiles) opens) move) := by
      apply after_turn course move
      · rintro push project rfl
        rw [← to_come, List.getElem?_append_right (by simp)]
        simp [Move.builds]
      · rintro f rfl
        exact untouched f List.mem_cons_self
    refine ih ?_ (fun f member => untouched f (List.mem_cons_of_mem _ member))
      (HasDouble.turn keep placed beside turn known doubles)
    rw [next.builds, List.append_assoc, ← to_come]
    rfl

end Double

end Course

/-- Every request is answered after so many turns: there are only so many calls to make for a
directory. -/
theorem heeds_attend (collaborators : Collaborators) (keyFiles : Nat → String) (build : Nat)
    (r : Build.Request) (world : World) : Heeds (collaborators.attend keyFiles build) r world := by
  by_cases elsewhere : ∀ path, r ≠ .makeDirectories path
  · refine .now ?_
    rw [Build.Collaborators.attend_of_ne elsewhere]
    rfl
  · obtain ⟨path, rfl⟩ := Classical.not_forall_not.mp elsewhere
    generalize left : (world.making build).getD (.ofPath path) = creation
    have attended : collaborators.attend keyFiles build (.makeDirectories path) world
        = world.settle build path (creation.step (atOnce FileTree.perform) world.tree) := by
      rw [← left]
      rfl
    induction creation generalizing world with
    | done reply =>
      refine .now ?_
      rw [attended]
      rfl
    | ask call next ih =>
      rw [step_ask] at attended
      simp only [atOnce, Option.elim] at attended
      cases hn : next (FileTree.perform call world.tree).1 with
      | done reply =>
        rw [hn] at attended
        refine .now ?_
        rw [attended]
        rfl
      | ask call' next' =>
        rw [hn] at attended
        have more : (((collaborators.attend keyFiles build (.makeDirectories path) world).2.making
            build).getD (.ofPath path)) = next (FileTree.perform call world.tree).1 := by
          rw [attended, hn]
          simp [World.settle, World.leave]
        refine .later (by rw [attended]; rfl) (ih _ _ more ?_)
        rw [← more]
        rfl

/-- Everything by which two runs of the same builds can differ, if their workspaces are apart: how
many builds may run at once, in which files their keys are staged, what is held back and for how
long, and in which order all moves are made. -/
structure Schedule (settings : Build.Settings) where
  Gates : Type
  maxConcurrent : Nat
  keyFiles : Nat → String
  opens : Nat → Build.Request → World × Gates → Bool × Gates
  gates : Gates
  moves : List (Move (World × Gates))
  untouched : ∀ f, .change f ∈ moves → ∀ state, (f state).1 = state.1
  apart : (moves.flatMap Move.builds).Pairwise fun first second => ∀ workspace other,
    workspaceOf settings first.1 = some workspace → workspaceOf settings second.1 = some other →
    Apart workspace other

namespace Schedule

variable {settings : Build.Settings}

/-- What becomes of a file tree and of builds among collaborators. -/
def course (schedule : Schedule settings) (collaborators : Collaborators) (tree : FileTree) :
    Course (World × schedule.Gates) :=
  (Course.create schedule.maxConcurrent (.fresh tree, schedule.gates)).run settings
    (held (collaborators.attend schedule.keyFiles) schedule.opens) schedule.moves

/-- What a build has called and been answered, wherever its key was staged. -/
def events (schedule : Schedule settings) (collaborators : Collaborators) (tree : FileTree)
    (build : Nat) : List Build.Exchange :=
  ((schedule.course collaborators tree).calls build).map masked

/-- No symbolic link stands on the way to the workspaces of the builds, or in place of a definition
in one of them. -/
def Unlinked (schedule : Schedule settings) (tree : FileTree) : Prop :=
  ∀ build ∈ schedule.moves.flatMap Move.builds, ∀ workspace,
    workspaceOf settings build.1 = some workspace →
    tree.Unlinked (Path.join workspace Build.definitionFile)

/-- The schedule of a build that is dispatched alone, with nothing held back. -/
def single (settings : Build.Settings) (maxConcurrent : Nat) (keyFile : String) (push : Push)
    (project : ProjectRecord) (turns : Nat) : Schedule settings where
  Gates := Unit
  maxConcurrent
  keyFiles _ := keyFile
  opens := wide
  gates := ()
  moves := .dispatch push project :: .start 0 :: List.replicate turns (.step 0)
  untouched f member := by simp [List.mem_replicate] at member
  apart := by
    have steps : (List.replicate turns (Move.step 0)).flatMap
        (@Move.builds (World × Unit)) = [] := by
      simp [List.flatMap_eq_nil_iff, List.mem_replicate, Move.builds]
    simp [Move.builds, steps]

/-- The builds of a course are those of its moves. -/
theorem builds_course (schedule : Schedule settings) (collaborators : Collaborators)
    (tree : FileTree) :
    (schedule.course collaborators tree).pool.jobs.map (fun job => (job.push, job.project))
      = schedule.moves.flatMap Move.builds :=
  Course.run_builds schedule.maxConcurrent _ _

section Straight

variable (straight : isStraight settings.cacheRoot = true)

include straight

theorem placed_workspaceOf (push : Push) : Placed (workspaceOf settings push) :=
  fun _ hd => ⟨Workspace.isStraight_of_dir? straight hd, Workspace.descent_ne_nil hd⟩

/-- The workspaces of different builds lie beside each other. -/
theorem beside (schedule : Schedule settings) {i j : Nat} {first second : Push × ProjectRecord}
    (hf : (schedule.moves.flatMap Move.builds)[i]? = some first)
    (hs : (schedule.moves.flatMap Move.builds)[j]? = some second) (different : i ≠ j)
    (dest place : String) (hd : workspaceOf settings first.1 = some dest)
    (hp : workspaceOf settings second.1 = some place) : Beside dest place := by
  obtain ⟨inside, rfl⟩ := List.getElem?_eq_some_iff.mp hf
  obtain ⟨inside', rfl⟩ := List.getElem?_eq_some_iff.mp hs
  have apart := List.pairwise_iff_getElem.mp schedule.apart
  rcases Nat.lt_or_gt_of_ne different with before | behind
  · exact Workspace.beside_of_apart straight hd hp (apart i j inside inside' before _ _ hd hp)
  · exact Workspace.beside_of_apart straight hd hp
      (apart j i inside' inside behind _ _ hp hd).symm

/-- Before anything is done, the workspaces of builds are in order where no symbolic link stands. -/
theorem inOrder_of_unlinked {schedule : Schedule settings} {tree : FileTree}
    (unlinked : schedule.Unlinked tree) {build : Push × ProjectRecord}
    (member : build ∈ schedule.moves.flatMap Move.builds) (dest : String)
    (hd : workspaceOf settings build.1 = some dest) : InOrder dest false tree where
  plain :=
    FileTree.isPlain_of_unlinked (Workspace.isStraight_of_dir? straight hd) (by decide) (by decide)
      (unlinked build member dest hd)
  there := nofun

variable {collaborators : Collaborators} (keep : collaborators.LinkNoDefinition) {tree : FileTree}
  (schedule : Schedule settings) (unlinked : schedule.Unlinked tree)

include keep unlinked

/-- Every build of a course has a double that is run alone. -/
theorem hasDouble (keyFiles : Nat → String) {build : Nat} {source : Push × ProjectRecord}
    (dispatched : (schedule.moves.flatMap Move.builds)[build]? = some source) :
    (schedule.course collaborators tree).HasDouble settings collaborators keyFiles tree build
      source := by
  refine .run keep (fun source _ => placed_workspaceOf straight source.1)
    (schedule.beside straight) schedule.moves rfl schedule.untouched (fun found => ?_) dispatched
  exact .create schedule.maxConcurrent schedule.gates _
    (inOrder_of_unlinked straight unlinked (List.mem_of_getElem? found))

/-- A build that is dispatched with others does what it does alone. -/
theorem as_alone (keyFiles : Nat → String) {build : Nat} {push : Push} {project : ProjectRecord}
    {phase : Phase}
    (found : (schedule.course collaborators tree).pool.jobs[build]?
      = some ⟨push, project, phase⟩) :
    schedule.events collaborators tree build
      <+: (alone settings collaborators keyFiles tree (push, project)).1
    ∧ ∀ state, phase = .finished state →
      (schedule.events collaborators tree build, state)
        = alone settings collaborators keyFiles tree (push, project) := by
  have dispatched : (schedule.moves.flatMap Move.builds)[build]? = some (push, project) := by
    rw [← schedule.builds_course collaborators tree, List.getElem?_map, found]
    rfl
  obtain ⟨h, after, double, made, calls, reaches, mirrors⟩ :=
    hasDouble straight keep schedule unlinked keyFiles dispatched
  have events : schedule.events collaborators tree build = (withoutLocks h).map masked :=
    calls.symm
  constructor
  · rw [events, alone, reaches.history, withoutLocks_append, List.map_append]
    exact List.prefix_append _ _
  · rintro state rfl
    have steps : (schedule.course collaborators tree).pool.stepsOf settings build (push, project)
        = .done state := by
      rw [Pool.stepsOf, found]
      rfl
    have alike := mirrors.alike
    rw [steps] at alike
    cases alike
    rw [events, alone, reaches.history, reaches.run]
    simp [history, Procedure.run]

end Straight

/-- A build that was dispatched and has ended is found where it was dispatched. -/
theorem exists_finished (schedule : Schedule settings) (collaborators : Collaborators)
    (tree : FileTree) (build : Nat) (push : Push) (project : ProjectRecord)
    (dispatched : (schedule.moves.flatMap Move.builds)[build]? = some (push, project))
    (ended : (schedule.course collaborators tree).pool.jobs[build]?.any
      (fun job => job.phase.isFinished) = true) :
    ∃ result, (schedule.course collaborators tree).pool.jobs[build]?
      = some ⟨push, project, .finished result⟩ := by
  rw [← schedule.builds_course collaborators tree, List.getElem?_map] at dispatched
  cases hj : (schedule.course collaborators tree).pool.jobs[build]? with
  | none =>
    rw [hj] at ended
    cases ended
  | some job =>
    rw [hj] at dispatched ended
    obtain ⟨push', project', phase⟩ := job
    cases dispatched
    cases phase with
    | finished result => exact ⟨result, rfl⟩
    | _ => cases ended

end Schedule

namespace Sample

/-- Collaborators that succeed at everything, and bring an empty definition. -/
def helpful : Collaborators where
  stage _ _ := .ok ()
  publish _ _ := .ok ()
  git _ _ _ := (.ok (), [(Build.definitionFile.toList, .file [])])
  sandbox _ _ := .ok ()

theorem linkNoDefinition_helpful : helpful.LinkNoDefinition := by
  intro own r contents _ target found
  cases found

/-- Collaborators that bring a symbolic link in place of the definition of one repository, which
leads to that of the other. -/
def linking : Collaborators where
  stage _ _ := .ok ()
  publish _ _ := .ok ()
  git _ r contents :=
    match r with
    | .clone _ "_cache/a/b" _ =>
      (.ok (), [(Build.definitionFile.toList, .link "../../c/d/pipeline.js")])
    | .clone .. => (.ok (), [(Build.definitionFile.toList, .file [])])
    | _ => (.ok (), contents)
  sandbox _ _ := .ok ()

/-- A tree with one file. -/
def oneFile : FileTree := ⟨[(.here, .directory [("f".toList, .file [])])]⟩

/-- Builds of two repositories that take turns. -/
def pair (settings : Build.Settings) (turns : List Nat) : Schedule settings where
  Gates := Unit
  maxConcurrent := 2
  keyFiles := fun build => if build = 0 then "/tmp/first" else "/tmp/second"
  opens := wide
  gates := ()
  moves := .dispatch (Build.Sample.pushTo "a/b") Build.Sample.project
    :: .dispatch (Build.Sample.pushTo "c/d") Build.Sample.project
    :: .start 0 :: .start 1 :: turns.map .step
  untouched f member := by simp at member
  apart := by
    have steps : (turns.map Move.step).flatMap (@Move.builds (World × Unit)) = [] := by
      simp [List.flatMap_eq_nil_iff, Move.builds]
    have first : Workspace.IsOwned "a/b" := ⟨"a", "b", by decide, by decide, rfl⟩
    have second : Workspace.IsOwned "c/d" := ⟨"c", "d", by decide, by decide, rfl⟩
    have apart := first.apart second (by decide)
    simp only [List.flatMap_cons, Move.builds, steps, List.append_nil,
      List.singleton_append, List.pairwise_pair]
    intro workspace other hw ho
    exact ⟨fun inside => apart.1 ((Workspace.dir?_prefix_iff hw ho).mp inside),
      fun inside => apart.2 ((Workspace.dir?_prefix_iff ho hw).mp inside)⟩

/-- The same settings with a cache root that leads up behind a name. -/
def winding : Build.Settings := { Build.Sample.settings with cacheRoot := "x/../f" }

/-- The messages of the reports of a build. -/
def messages (events : List Build.Exchange) : List String :=
  events.filterMap fun x =>
    match x.question with
    | .publish update => some update.message
    | _ => none

end Sample

end BuildHook.Dispatch
