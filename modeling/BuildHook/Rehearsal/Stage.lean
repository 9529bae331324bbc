import BuildHook.Build.Run
import BuildHook.FileTree
import BuildHook.Script.Sandbox

/-!
# Rehearsed processes

A rehearsal runs git calls, sandboxes and whole builds in a file tree, with a plan in place of real
processes: the n-th process that is started does what the n-th entry of the plan says, and after the
end of the plan every process succeeds silently. Starting a process can still fail, for the reasons
that the operating system has, and then uses up no entry.
-/

namespace BuildHook.Rehearsal

/-- What a planned process does. Its files are made below its working directory before it ends. -/
structure PlannedProcess where
  code : Process.ExitCode
  output : Bytes
  errors : Bytes
  files : List (String × Option Bytes)

/-- The exit code that is seen of a process; it has eight bits. -/
def PlannedProcess.exitCode (planned : PlannedProcess) : Process.ExitCode :=
  planned.code.map (· % 256)

/-- The process that succeeds silently. -/
def PlannedProcess.silent : PlannedProcess := ⟨some 0, [], [], []⟩

/-- A program that is asked for: the one that follows the plan, or one by name. -/
inductive Program where
  | planned
  | named (name : String)

/-- The name of a program in messages. -/
def Program.name : Program → String
  | .planned => "planned"
  | .named name => name

/-- A process that was started. -/
inductive Started where
  | git (arguments : List String) (cwd : Location) (sshCommand : Option String)
      (key : Option Bytes)
  | interpreter (flags : List String) (cwd : Location) (script : String)

/-- The state of a rehearsal. -/
structure Stage where
  tree : FileTree
  plan : List PlannedProcess
  started : List Started
  git : Program
  interpreter : Program
  sandbox : Sandbox
  keys : List StagedKey
  keysCanBeStaged : Bool
  updates : List StatusUpdate
  reportsFail : Bool

namespace Stage

/-- A rehearsal in which nothing has happened. -/
def create (tree : FileTree) (plan : List PlannedProcess) (git interpreter : Program)
    (workdir : String) : Stage :=
  ⟨tree, plan, [], git, interpreter, .create interpreter.name workdir, [], true, [], false⟩

/-- The programs that every system has and that do nothing, with the codes by which they end. -/
def idlePrograms : List (String × Nat) := [("true", 0), ("false", 1)]

/-- What a named program comes to from a directory. A name without a separator is searched for in
directories where programs are kept, any other is a path; no file of the tree can be executed. -/
def execute (tree : FileTree) (cwd : Place) (name : String) : Except IoError Nat :=
  let isIdle (directories : List String) (program : String × Nat) : Bool :=
    directories.any fun directory => directory ++ program.1 == name
  if name.toList.contains '/' then do
    match idlePrograms.find? (isIdle ["/bin/", "/usr/bin/"]) with
    | some program => return program.2
    | none =>
      let _ ← tree.locateFrom cwd name
      .error .permissionDenied
  else if FileTree.maxName < name.utf8ByteSize then .error .nameTooLong
  else if name = "." || name = ".." then .error .permissionDenied
  else
    match idlePrograms.find? (isIdle [""]) with
    | some program => return program.2
    | none => .error .notFound

/-- The longest argument of a process, or variable of its environment, in bytes. -/
def maxWord : Nat := 131071

/-- Starts a process. `words` are its arguments and what is set in its environment. -/
def start (stage : Stage) (program : Program) (words : List String) (cwd : String)
    (record : Location → Started) : Except IoError Process.Outcome × Stage :=
  if (program.name :: cwd :: words).any Path.hasNul then (.error .nulInArgument, stage)
  else
    match stage.tree.directory cwd with
    | .error cause => (.error cause, stage)
    | .ok place =>
      match program with
      | .named name =>
        ((execute stage.tree place name).map fun code => ⟨some code, [], []⟩, stage)
      | .planned =>
        if words.any fun word => maxWord < word.utf8ByteSize then
          (.error .argumentsTooLong, stage)
        else
          let planned := stage.plan.headD .silent
          let files := planned.files.map fun file => (Path.join cwd file.1, file.2)
          (.ok ⟨planned.exitCode, planned.output, planned.errors⟩,
            { stage with
              tree := stage.tree.placeAll files
              plan := stage.plan.tail
              started := stage.started ++ [record place.location] })

/-- The content of a key file: one that was staged, or one in the tree as seen from the working
directory. -/
def keyContent (stage : Stage) (cwd path : String) : Option Bytes :=
  match stage.keys.find? fun key => key.path == path with
  | some key => some (Utf8.encode key.content)
  | none => (stage.tree.read (Path.join cwd path)).toOption

/-- The variable that tells git how to connect. -/
def sshVariable : String := "GIT_SSH_COMMAND"

/-- Makes a git call in a directory. -/
def runGit (stage : Stage) (call : GitCall) (dest : String) : Except GitError Unit × Stage :=
  let command := call.keyPath?.map sshCommand
  let key := call.keyPath?.bind (stage.keyContent dest)
  let environment := command.toList.map fun command => sshVariable ++ "=" ++ command
  let (outcome, stage) := stage.start stage.git (call.arguments ++ environment) dest
    fun location => .git call.arguments location command key
  (call.result outcome, stage)

/-- Supplies a sandbox. One without a working directory is staged where relative paths start. -/
def supply : (n : Sandbox.Need) → Stage → Sandbox.Supply n × Stage
  | .read path, stage => (stage.tree.readText path, stage)
  | .stage workdir _, stage =>
      ((stage.tree.directory (if workdir = "" then "." else workdir)).map fun _ => (), stage)
  | .interpret _ workdir flags program, stage =>
      stage.start stage.interpreter [] workdir fun location => .interpreter flags location program

/-- Makes a call of the open sandbox. -/
def callSandbox (stage : Stage) (call : Sandbox → Sandbox.Call) :
    Except SandboxError Unit × Stage :=
  let ((result, sandbox), stage) := (call stage.sandbox).run supply stage
  (result, { stage with sandbox })

/-- The path of a staged key. -/
def stagedKeyPath : String := "<key>"

/-- Answers a request of a build. -/
def answer : (r : Build.Request) → Stage → Build.Reply r × Stage
  | .stageKey content, stage =>
    if stage.keysCanBeStaged then
      let key : StagedKey := ⟨stagedKeyPath, content⟩
      (.ok key, { stage with keys := stage.keys ++ [key] })
    else (.error .notFound, stage)
  | .discardKey key, stage => ((), { stage with keys := stage.keys.erase key })
  | .publish update, stage =>
      (if stage.reportsFail then .error (.rejected 500 "") else .ok (),
        { stage with updates := stage.updates ++ [update] })
  | .enter _, stage => ((), stage)
  | .leave _, stage => ((), stage)
  | .makeDirectories path, stage =>
    let (made, tree) := stage.tree.makeDirectories path
    (made, { stage with tree })
  | .clone url dest key, stage => stage.runGit (.clone url (key.map StagedKey.path)) dest
  | .update dest key, stage => stage.runGit (.update (key.map StagedKey.path)) dest
  | .checkout dest revision, stage => stage.runGit (.checkout revision) dest
  | .readText path, stage => (stage.tree.readText path, stage)
  | .openSandbox dest, stage =>
      ((), { stage with sandbox := .create stage.interpreter.name dest })
  | .bind name value, stage =>
      let (result, sandbox) := stage.sandbox.bind name value
      (result, { stage with sandbox })
  | .evaluate source, stage => stage.callSandbox (·.evaluate source)
  | .load path, stage => stage.callSandbox (·.load path)

/-- A build with its own plan, in the file tree that earlier builds have left. -/
structure PlannedBuild where
  push : Push
  project : ProjectRecord
  plan : List PlannedProcess
  files : List (String × Option Bytes)
  keysCanBeStaged : Bool

/-- Runs one build; what it recorded replaces what the build before it recorded. -/
def runBuild (stage : Stage) (settings : Build.Settings) (build : PlannedBuild) :
    BuildState × Stage :=
  (Build.run settings build.push build.project).run answer
    { stage with
      tree := stage.tree.placeAll build.files
      plan := build.plan
      started := []
      updates := []
      keysCanBeStaged := build.keysCanBeStaged }

end Stage

end BuildHook.Rehearsal
