import BuildHook.Build.Run
import BuildHook.FileTree

/-!
# Rehearsed collaborators

Stand-ins for git, the sandbox and the status report, which share one file tree, write down every
call and fail where they are told to. A clone can be held back until it is released.
-/

namespace BuildHook.Rehearsal

/-- A step that a stand-in lets fail; `definition` means that no definition is written. -/
inductive Flaw where
  | clone
  | update
  | checkout
  | definition
  | evaluate
  | load
  | publish
  deriving DecidableEq

/-- How the stand-ins treat one build. -/
structure Role where
  label : String
  flaws : List Flaw

/-- Which clones may go on: all, or one for every label in the list. -/
inductive Gate where
  | wide
  | held (released : List String)

/-- What the stand-ins of all builds share. The log tells which build made which request. -/
structure Scene where
  tree : FileTree
  definition : Option Bytes
  gate : Gate
  log : List (Nat × Build.Request)
  cloning : List Nat

namespace Scene

/-- A scene in which nothing has happened. -/
def create (tree : FileTree) (definition : Option Bytes) (gate : Gate) : Scene :=
  ⟨tree, definition, gate, [], []⟩

/-- Writes down a request. -/
def note (scene : Scene) (build : Nat) (r : Build.Request) : Scene :=
  { scene with log := scene.log ++ [(build, r)] }

/-- What a failed git call of a stand-in reports. -/
def gitFailure (operation : String) : GitError :=
  .failed operation (some 128) ("fatal: " ++ operation ++ " failed")

/-- Writes the definition into a working copy, unless it is left out. -/
def writeDefinition (scene : Scene) (role : Role) (dest : String) : Scene :=
  match scene.definition with
  | some content =>
    if role.flaws.contains .definition then scene
    else { scene with
      tree := scene.tree.place (Path.join dest Build.definitionFile) (some content) }
  | none => scene

/-- A git call that brings the definition. -/
def fetched (scene : Scene) (role : Role) (flaw : Flaw) (operation dest : String) :
    Except GitError Unit × Scene :=
  if role.flaws.contains flaw then (.error (gitFailure operation), scene)
  else (.ok (), scene.writeDefinition role dest)

/-- Passes the gate, if it lets this label through. -/
def pass? (scene : Scene) (label : String) : Option Scene :=
  match scene.gate with
  | .wide => some scene
  | .held released =>
    if released.contains label then some { scene with gate := .held (released.erase label) }
    else none

/-- Lets one more clone of a label through. -/
def release (scene : Scene) (label : String) : Scene :=
  match scene.gate with
  | .wide => scene
  | .held released => { scene with gate := .held (released ++ [label]) }

/-- Lets all clones through. -/
def releaseAll (scene : Scene) : Scene := { scene with gate := .wide }

/-- Begins a clone, which is written down once, and ends it when the gate lets it through. -/
def clone (scene : Scene) (build : Nat) (role : Role) (url dest : String)
    (key : Option StagedKey) : Option (Except GitError Unit) × Scene :=
  let scene :=
    if scene.cloning.contains build then scene
    else { scene.note build (.clone url dest key) with cloning := scene.cloning ++ [build] }
  match scene.pass? role.label with
  | none => (none, scene)
  | some scene =>
    let (result, scene) := scene.fetched role .clone "clone" dest
    (some result, scene)

/-- Answers a request of a build, or lets it wait. The waits for a workspace are not the stand-ins'
affair. -/
def answer? (build : Nat) (role : Role) :
    (r : Build.Request) → Scene → Option (Build.Reply r) × Scene
  | .stageKey content, scene => (some (.ok ⟨"<key>", content⟩), scene)
  | .discardKey _, scene => (some (), scene)
  | .publish update, scene =>
      (some (if role.flaws.contains .publish then .error (.rejected 500 "") else .ok ()),
        scene.note build (.publish update))
  | .enter _, scene => (some (), scene)
  | .leave _, scene => (some (), scene)
  | .makeDirectories path, scene =>
    let (made, tree) := scene.tree.makeDirectories path
    (some made, { scene with tree })
  | .clone url dest key, scene => scene.clone build role url dest key
  | .update dest key, scene =>
      let (result, scene) :=
        (scene.note build (.update dest key)).fetched role .update "fetch" dest
      (some result, scene)
  | .checkout dest revision, scene =>
      (some (if role.flaws.contains .checkout then .error (gitFailure "checkout") else .ok ()),
        scene.note build (.checkout dest revision))
  | .readText path, scene => (some (scene.tree.readText path), scene)
  | .openSandbox _, scene => (some (), scene)
  | .bind name value, scene => (some (.ok ()), scene.note build (.bind name value))
  | .evaluate source, scene =>
      (some (if role.flaws.contains .evaluate
          then .error (.compile "SyntaxError: Unexpected end of input") else .ok ()),
        scene.note build (.evaluate source))
  | .load path, scene =>
      (some (if role.flaws.contains .load
          then .error (.execution (some 1) "Error: build step failed") else .ok ()),
        scene.note build (.load path))

/-- The requests of one build, in order. -/
def events (scene : Scene) (build : Nat) : List Build.Request :=
  (scene.log.filter fun entry => entry.1 == build).map (·.2)

/-- The builds in the order of their first requests. -/
def order (scene : Scene) : List Nat := (scene.log.map (·.1)).eraseDups

end Scene

/-- Runs scripts in a sandbox that writes down every call and fails where it is told to. -/
def recordScripts (flaw? : Build.Request → Option SandboxError) {α : Type}
    (steps : Build.Steps α) : α × List Build.Request :=
  let reply (r : Build.Request) : Except SandboxError Unit :=
    match flaw? r with
    | some e => .error e
    | none => .ok ()
  let answer : (r : Build.Request) → List Build.Request → Build.Reply r × List Build.Request
    | .bind name value, log => (reply (.bind name value), log ++ [.bind name value])
    | .evaluate source, log => (reply (.evaluate source), log ++ [.evaluate source])
    | .load path, log => (reply (.load path), log ++ [.load path])
    | .stageKey content, log => (.ok ⟨"<key>", content⟩, log)
    | .discardKey _, log => ((), log)
    | .publish _, log => (.ok (), log)
    | .enter _, log => ((), log)
    | .leave _, log => ((), log)
    | .makeDirectories _, log => (.ok (), log)
    | .clone .., log => (.ok (), log)
    | .update .., log => (.ok (), log)
    | .checkout .., log => (.ok (), log)
    | .readText _, log => (.ok "", log)
    | .openSandbox _, log => ((), log)
  steps.run answer []

end BuildHook.Rehearsal
