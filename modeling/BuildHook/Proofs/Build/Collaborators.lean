import BuildHook.Proofs.Build.Dependence
import BuildHook.Proofs.FileTree.Sight

/-!
# Collaborators

What others do for builds that share one file tree. Their answers to a build depend on its own
earlier calls alone, and on what stands in its working copy, which is also all that they change;
they do not see where a key is staged. Definitions are read in the tree itself, and directories are
made there, call by call: between two calls of one build there may be any of another one.

## Main results

`act_own` says that a build and its double in another tree are answered alike while both see the
same of their workspace, `attend_makeDirectories` what comes of the calls that make a workspace, and
`act_beside` that what is done for other builds leaves alone what lies beside their workspaces.
-/

namespace BuildHook.Build

open BuildHook.FileTree (Answers Comes Contents IsClear IsPlain SparesBeside perform replacing shown)
open BuildHook.Path (Beside descent isStraight)

/-- How others answer a build that has made some calls before. Git also sees what stands in the
working copy, and leaves something else there. -/
structure Collaborators where
  stage : List Exchange → String → Except IoError Unit
  publish : List Exchange → StatusUpdate → Except StatusError Unit
  git : List Exchange → Request → Contents → Except GitError Unit × Contents
  sandbox : List Exchange → Request → Except SandboxError Unit

/-- Whether no symbolic link stands in place of the definition in a working copy. -/
def HasOwnDefinition (contents : Contents) : Prop :=
  ∀ target, (Entry.directory contents).child? definitionFile.toList ≠ some (.link target)

namespace Collaborators

/-- Whether git puts no symbolic link in place of a definition. -/
def LinkNoDefinition (collaborators : Collaborators) : Prop :=
  ∀ own r contents, HasOwnDefinition contents →
    HasOwnDefinition (collaborators.git own r contents).2

/-- Lets git work on a working copy. -/
def inCopy (collaborators : Collaborators) (own : List Exchange) (r : Request) (dest : String)
    (tree : FileTree) : Except GitError Unit × FileTree :=
  let (reply, contents) := collaborators.git own r.masked ((tree.contents? dest).getD [])
  (reply, tree.replace dest contents)

/-- Answers a request of a build that has made some calls before and gets its key staged in a
certain file. -/
def act (collaborators : Collaborators) (keyFile : String) (own : List Exchange) :
    (r : Request) → FileTree → Reply r × FileTree
  | .stageKey content, tree =>
      ((collaborators.stage own content).map fun _ => ⟨keyFile, content⟩, tree)
  | .discardKey _, tree => ((), tree)
  | .publish update, tree => (collaborators.publish own update, tree)
  | .enter _, tree => ((), tree)
  | .leave _, tree => ((), tree)
  | .makeDirectories path, tree => tree.makeDirectories path
  | .clone url dest key, tree => collaborators.inCopy own (.clone url dest key) dest tree
  | .update dest key, tree => collaborators.inCopy own (.update dest key) dest tree
  | .checkout dest revision, tree => collaborators.inCopy own (.checkout dest revision) dest tree
  | .readText path, tree => (tree.readText path, tree)
  | .openSandbox _, tree => ((), tree)
  | .bind name value, tree => (collaborators.sandbox own (.bind name value), tree)
  | .evaluate source, tree => (collaborators.sandbox own (.evaluate source), tree)
  | .load path, tree => (collaborators.sandbox own (.load path), tree)

/-- The file tree that builds share, what each of them has called, and what is left to do of the
directories that they are having made. -/
structure World where
  tree : FileTree
  calls : Nat → List Exchange
  making : Nat → Option Creation

/-- A file tree in which nothing has been called. -/
def World.fresh (tree : FileTree) : World := ⟨tree, fun _ => [], fun _ => none⟩

/-- Writes down a call of a build. -/
def World.note (world : World) (build : Nat) (x : Exchange) : World :=
  { world with
    calls := fun other =>
      if other = build then world.calls other ++ [masked x] else world.calls other }

/-- Sets what is left to do of the directory that a build is having made. -/
def World.leave (world : World) (build : Nat) (left : Option Creation) : World :=
  { world with making := fun other => if other = build then left else world.making other }

/-- After a call for a directory that a build is having made: answers the build, if nothing is left to
do, and writes that down. -/
def World.settle (world : World) (build : Nat) (path : String) :
    Creation × FileTree → Option (Reply (.makeDirectories path)) × World
  | (.done reply, tree) =>
    (some reply,
      World.note { world.leave build none with tree } build ⟨.makeDirectories path, reply⟩)
  | (left, tree) => (none, { world.leave build (some left) with tree })

/-- Answers the requests of all builds, and writes them down. The key of each build gets a file of
its own. -/
def answer (collaborators : Collaborators) (keyFiles : Nat → String) (build : Nat) (r : Request)
    (world : World) : Reply r × World :=
  let (reply, tree) := collaborators.act (keyFiles build) (world.calls build) r world.tree
  (reply, World.note { world with tree } build ⟨r, reply⟩)

/-- Does one call of the operating system for a build that has a directory made, and answers it if
that was the last one. All other requests are answered at once. -/
def attend (collaborators : Collaborators) (keyFiles : Nat → String) (build : Nat) :
    (r : Request) → World → Option (Reply r) × World
  | .makeDirectories path, world =>
    let creation := (world.making build).getD (Creation.ofPath path)
    world.settle build path (creation.step (Procedure.atOnce perform) world.tree)
  | r, world => Procedure.atOnce (collaborators.answer keyFiles build) r world

variable {collaborators : Collaborators} {keyFile : String} {own : List Exchange}

theorem masked_masked (r : Request) : r.masked.masked = r.masked := by
  have keys (key : Option StagedKey) :
      (key.map StagedKey.masked).map StagedKey.masked = key.map StagedKey.masked := by
    rw [Option.map_map]
    rfl
  cases r <;> simp only [Request.masked, keys, StagedKey.masked]

/-- What is answered does not depend on where a key is staged. -/
theorem act_masked (r : Request) (tree : FileTree) :
    masked ⟨r, (collaborators.act keyFile own r tree).1⟩
      = ⟨r.masked, (collaborators.act "" own r.masked tree).1⟩
    ∧ (collaborators.act keyFile own r tree).2 = (collaborators.act "" own r.masked tree).2 := by
  have twice := masked_masked r
  cases r with
  | stageKey content =>
    refine ⟨?_, rfl⟩
    simp only [masked, act, maskedReply, Request.masked]
    cases collaborators.stage own content <;> rfl
  | clone url dest key =>
    simp only [masked, act, maskedReply, Request.masked, inCopy] at twice ⊢
    rw [twice]
    exact ⟨rfl, rfl⟩
  | update dest key =>
    simp only [masked, act, maskedReply, Request.masked, inCopy] at twice ⊢
    rw [twice]
    exact ⟨rfl, rfl⟩
  | _ => exact ⟨rfl, rfl⟩

/-- Alike requests are answered alike if the answer does not depend on the tree. -/
theorem masked_act_eq {r r' : Request} {keyFile' : String} {tree tree' : FileTree}
    (same : r.masked = r'.masked)
    (answers :
      (collaborators.act keyFile own r tree).1 = (collaborators.act keyFile own r tree').1) :
    masked ⟨r, (collaborators.act keyFile own r tree).1⟩
      = masked ⟨r', (collaborators.act keyFile' own r' tree').1⟩ := by
  rw [answers, (act_masked r tree').1, (act_masked r' tree').1, same]

/-- A workspace is in order for a build: no symbolic link stands on the way to it or in place of its
definition, and it is there once it has been made. -/
structure InOrder (dest : String) (made : Bool) (tree : FileTree) : Prop where
  plain : IsPlain definitionFile (tree.sight dest)
  there : made = true → (shown dest (tree.sight dest)).isSome = true

/-- A working copy that is seen shows its definition, if that is no symbolic link. -/
theorem isPlain_iff_hasOwnDefinition {entries : Contents} :
    IsPlain definitionFile (.ok ⟨.ok entries, true⟩) ↔ HasOwnDefinition entries := by
  have short : ¬ FileTree.maxName < FileTree.byteLength definitionFile.toList := by decide
  constructor
  · intro plain target found
    exact plain _ rfl (Entry.enter_of_link rfl short found)
  · intro plain sight found
    cases found
    show (Entry.directory entries).enter definitionFile.toList ≠ _
    rw [Entry.enter_of_child rfl short rfl plain]
    simp

section Own

variable {dest : String} (straight : isStraight dest = true) (named : descent dest ≠ [])
  {r : Request} {made : Bool} {tree tree' : FileTree}

include straight

/-- What git sees and leaves in a working copy. -/
theorem inCopy_eq (order : InOrder dest made tree) (own : List Exchange) (r : Request) :
    collaborators.inCopy own r dest tree
      = ((collaborators.git own r.masked ((shown dest (tree.sight dest)).getD [])).1,
        tree.replace dest
          (collaborators.git own r.masked ((shown dest (tree.sight dest)).getD [])).2) := by
  rw [inCopy, FileTree.contents?_sight straight order.plain.isClear]

include named

/-- Git leaves a working copy in order, if it puts no symbolic link in place of the definition. -/
theorem inOrder_inCopy (keep : collaborators.LinkNoDefinition) (order : InOrder dest made tree)
    (r : Request) : InOrder dest made (collaborators.inCopy own r dest tree).2 := by
  rw [inCopy_eq straight order]
  show InOrder dest made (tree.replace dest _)
  have sight := FileTree.sight_replace straight named order.plain.isClear
  cases seen : shown dest (tree.sight dest) with
  | none =>
    have unseen : (shown dest (tree.sight dest)).isSome ≠ true := by
      rw [seen]
      nofun
    refine ⟨?_, fun now => absurd (order.there now) unseen⟩
    rw [sight, replacing, if_neg unseen]
    exact order.plain
  | some entries =>
    obtain ⟨usable, same⟩ := FileTree.shown_eq_some_iff.mp seen
    have plain := order.plain
    rw [same] at plain
    refine ⟨?_, fun _ => ?_⟩ <;> rw [sight, replacing, seen, Option.isSome_some, if_pos rfl]
    · exact isPlain_iff_hasOwnDefinition.mpr (keep own _ _ (isPlain_iff_hasOwnDefinition.mp plain))
    · rw [FileTree.shown_eq_some_iff.mpr ⟨usable, rfl⟩]
      rfl

/-- Git answers what it sees in the working copy, and shows what it leaves there. -/
theorem inCopy_own (order : InOrder dest made tree') (same : tree.sight dest = tree'.sight dest)
    (r : Request) :
    (collaborators.inCopy own r dest tree).1 = (collaborators.inCopy own r dest tree').1
    ∧ (collaborators.inCopy own r dest tree).2.sight dest
      = (collaborators.inCopy own r dest tree').2.sight dest := by
  have order' : InOrder dest made tree := ⟨same ▸ order.plain, same ▸ order.there⟩
  rw [inCopy_eq straight order, inCopy_eq straight order', same]
  refine ⟨rfl, ?_⟩
  show (tree.replace dest _).sight dest = (tree'.replace dest _).sight dest
  rw [FileTree.sight_replace straight named order'.plain.isClear,
    FileTree.sight_replace straight named order.plain.isClear, same]

omit named in
/-- A definition in a workspace that is there is read the same. -/
theorem readText_own (order : InOrder dest true tree') (same : tree.sight dest = tree'.sight dest) :
    tree.readText (Path.join dest definitionFile)
      = tree'.readText (Path.join dest definitionFile) := by
  obtain ⟨entries, seen⟩ := Option.isSome_iff_exists.mp (order.there rfl)
  have ordinary : Path.IsName definitionFile := by decide
  have start : Path.isAbsolute (Path.join dest definitionFile) = Path.isAbsolute dest :=
    Path.isAbsolute_join (by decide)
  rw [FileTree.readText_join straight ordinary start (same ▸ order.plain) (same ▸ seen),
    FileTree.readText_join straight ordinary start order.plain seen]

/-- While two trees show the same of the workspace, builds are answered the same there, and go on to
see the same. -/
theorem act_own (keep : collaborators.LinkNoDefinition) (keyFile : String) (own : List Exchange)
    (careful : r.kind = .work → r.IsIn dest ∧ (made = true ∨ r = .makeDirectories dest))
    (other : ∀ path, r ≠ .makeDirectories path)
    (order : InOrder dest made tree') (same : tree.sight dest = tree'.sight dest) :
    (collaborators.act keyFile own r tree).1 = (collaborators.act keyFile own r tree').1
    ∧ (collaborators.act keyFile own r tree).2.sight dest
      = (collaborators.act keyFile own r tree').2.sight dest
    ∧ InOrder dest made (collaborators.act keyFile own r tree').2 := by
  have inCopy {place : String} (r : Request) (here : place = dest) :
      (collaborators.inCopy own r place tree).1 = (collaborators.inCopy own r place tree').1
      ∧ (collaborators.inCopy own r place tree).2.sight dest
        = (collaborators.inCopy own r place tree').2.sight dest
      ∧ InOrder dest made (collaborators.inCopy own r place tree').2 := by
    subst here
    obtain ⟨answers, after⟩ := inCopy_own straight named order same r
    exact ⟨answers, after, inOrder_inCopy straight named keep order r⟩
  cases r with
  | makeDirectories path => exact absurd rfl (other path)
  | clone url place key => exact inCopy (.clone url place key) (careful rfl).1
  | update place key => exact inCopy (.update place key) (careful rfl).1
  | checkout place revision => exact inCopy (.checkout place revision) (careful rfl).1
  | readText path =>
    obtain ⟨rfl, now⟩ : path = Path.join dest definitionFile
        ∧ (made = true ∨ Request.readText path = .makeDirectories dest) := careful rfl
    obtain rfl : made = true := now.resolve_right nofun
    exact ⟨readText_own straight order same, same, order⟩
  | _ => exact ⟨rfl, same, order⟩

/-- A workspace that is made is there if that succeeds, and stays in order. -/
theorem inOrder_makeDirectories (order : InOrder dest made tree) :
    InOrder dest (made || makes ⟨.makeDirectories dest, (tree.makeDirectories dest).1⟩)
      (tree.makeDirectories dest).2 := by
  obtain ⟨answer, after⟩ := FileTree.makeDirectories_sight straight named order.plain.isClear
  refine ⟨?_, fun now => ?_⟩
  · rw [after]
    intro sight found
    unfold FileTree.making at found
    cases hs : tree.sight dest with
    | error cause =>
      rw [hs] at found
      cases found
    | ok seen =>
      rw [hs] at found
      cases found
      exact order.plain seen hs
  · rw [after]
    apply FileTree.shown_making
    cases made with
    | true => exact FileTree.answerOf_of_shown (order.there rfl)
    | false =>
      rw [answer] at now
      cases ha : FileTree.answerOf dest (tree.sight dest) with
      | ok done => rfl
      | error cause =>
        rw [ha] at now
        cases now

end Own

/-- What has nothing to do with the work of a build has nothing to do with the tree. -/
theorem act_idle (collaborators : Collaborators) (keyFile : String) (own : List Exchange)
    {r : Request} (idle : r.kind ≠ .work) (tree tree' : FileTree) :
    (collaborators.act keyFile own r tree).1 = (collaborators.act keyFile own r tree').1
    ∧ (collaborators.act keyFile own r tree).2 = tree := by
  cases r <;> first | exact ⟨rfl, rfl⟩ | exact absurd rfl idle

/-- Whether a workspace, if there is one, can be named from where all workspaces start. -/
def Placed (workspace : Option String) : Prop :=
  ∀ dest, workspace = some dest → isStraight dest = true ∧ descent dest ≠ []

/-- A build and its double in another tree are answered alike while both see the same of their
workspace, and go on to see the same. -/
theorem act_double (keep : collaborators.LinkNoDefinition) (keyFile keyFile' : String)
    (own : List Exchange) {workspace : Option String} (placed : Placed workspace)
    {r r' : Request} (same : r.masked = r'.masked) (other : ∀ path, r ≠ .makeDirectories path)
    {made : Bool} {tree tree' : FileTree}
    (careful : r.kind = .work → ∃ dest, workspace = some dest ∧ r.IsIn dest
      ∧ (made = true ∨ r = .makeDirectories dest))
    (order : ∀ dest, workspace = some dest → InOrder dest made tree')
    (sight : ∀ dest, workspace = some dest → tree.sight dest = tree'.sight dest) :
    masked ⟨r, (collaborators.act keyFile own r tree).1⟩
      = masked ⟨r', (collaborators.act keyFile' own r' tree').1⟩
    ∧ ∀ dest, workspace = some dest →
      (collaborators.act keyFile own r tree).2.sight dest
        = (collaborators.act keyFile' own r' tree').2.sight dest
      ∧ InOrder dest made (collaborators.act keyFile' own r' tree').2 := by
  have trees : (collaborators.act keyFile own r tree').2
      = (collaborators.act keyFile' own r' tree').2 := by
    rw [(act_masked r tree').2, (act_masked r' tree').2, same]
  rw [← trees]
  by_cases work : r.kind = .work
  · obtain ⟨dest, rfl, inside, now⟩ := careful work
    obtain ⟨straight, named⟩ := placed dest rfl
    obtain ⟨answer, after, kept⟩ := act_own straight named keep keyFile own
      (fun _ => ⟨inside, now⟩) other (order dest rfl) (sight dest rfl)
    refine ⟨masked_act_eq same answer, ?_⟩
    rintro _ ⟨⟩
    exact ⟨after, kept⟩
  · obtain ⟨answer, after⟩ := act_idle collaborators keyFile own work tree tree'
    obtain ⟨-, after'⟩ := act_idle collaborators keyFile own work tree' tree
    refine ⟨masked_act_eq same answer, fun dest hd => ?_⟩
    rw [after, after']
    exact ⟨sight dest hd, order dest hd⟩

/-- What is done for a build in its workspace leaves alone what lies beside it. -/
theorem act_beside {dest : String} (straight : isStraight dest = true) {tree : FileTree}
    (clear : IsClear (tree.sight dest)) {r : Request} (inside : r.kind = .work → r.IsIn dest)
    (other : ∀ path, r ≠ .makeDirectories path) :
    SparesBeside (descent dest) tree (collaborators.act keyFile own r tree).2 := by
  have inCopy {place : String} (r : Request) (here : place = dest) :
      SparesBeside (descent dest) tree (collaborators.inCopy own r place tree).2 := by
    subst here
    exact FileTree.sparesBeside_replace straight clear _
  cases r with
  | makeDirectories path => exact absurd rfl (other path)
  | clone url place key => exact inCopy (.clone url place key) (inside rfl)
  | update place key => exact inCopy (.update place key) (inside rfl)
  | checkout place revision => exact inCopy (.checkout place revision) (inside rfl)
  | _ => exact .refl _ _

/-- What a call comes to for a build that has a directory made: it is answered, or there is more to
do, and what lies beside the directory is left alone. -/
theorem attend_makeDirectories (collaborators : Collaborators) (keyFiles : Nat → String)
    {build : Nat} {world : World} {path : String} {way : List (List Char)}
    {post : Except IoError Unit → FileTree → Prop}
    (comes : Comes way post ((world.making build).getD (Creation.ofPath path)) world.tree) :
    ∃ tree, SparesBeside way world.tree tree
      ∧ ((∃ reply, post reply tree
          ∧ collaborators.attend keyFiles build (.makeDirectories path) world
            = (some reply, World.note { world.leave build none with tree } build
              ⟨.makeDirectories path, reply⟩))
        ∨ ∃ call next, Comes way post (.ask call next) tree
          ∧ collaborators.attend keyFiles build (.makeDirectories path) world
            = (none, { world.leave build (some (.ask call next)) with tree })) := by
  simp only [attend]
  generalize (world.making build).getD (Creation.ofPath path) = creation at comes ⊢
  cases creation with
  | done reply => exact ⟨world.tree, .refl _ _, .inl ⟨reply, comes, rfl⟩⟩
  | ask call next =>
    obtain ⟨spares, rest⟩ := comes world.tree (.refl _ _)
    refine ⟨_, spares, ?_⟩
    rw [Procedure.step_ask]
    simp only [Procedure.atOnce, Option.elim]
    generalize next (perform call world.tree).1 = left at rest ⊢
    cases left with
    | done reply => exact .inl ⟨reply, rest, rfl⟩
    | ask call' next' => exact .inr ⟨call', next', rest, rfl⟩

theorem attend_of_ne {r : Request} (other : ∀ path, r ≠ .makeDirectories path)
    (keyFiles : Nat → String) (build : Nat) (world : World) :
    collaborators.attend keyFiles build r world
      = Procedure.atOnce (collaborators.answer keyFiles build) r world := by
  cases r <;> first | rfl | exact absurd rfl (other _)

/-- What is done for a build is written down for this build alone. -/
theorem attend_other (collaborators : Collaborators) (keyFiles : Nat → String) {build other : Nat}
    (different : other ≠ build) (r : Request) (world : World) :
    (collaborators.attend keyFiles build r world).2.calls other = world.calls other
    ∧ (collaborators.attend keyFiles build r world).2.making other = world.making other := by
  by_cases elsewhere : ∀ path, r ≠ .makeDirectories path
  · rw [attend_of_ne elsewhere]
    simp [Procedure.atOnce, answer, World.note, different]
  · obtain ⟨path, rfl⟩ := Classical.not_forall_not.mp elsewhere
    simp only [attend, World.settle]
    split <;> simp [World.note, World.leave, different]

end Collaborators

end BuildHook.Build
