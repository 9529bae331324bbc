import BuildHook.Build.Request
import BuildHook.Project.Record
import BuildHook.Script.Context
import BuildHook.Workspace

/-!
# Builds

A build is reported twice: as pending before anything is done, and with its result when everything
has been done. In between it brings the revision into the repository's workspace, reads the pipeline
definition there and runs it. The first step that fails ends the build.
-/

namespace BuildHook.Build

/-- What all builds have in common. -/
structure Settings where
  cacheRoot : String
  runnerScript : String
  targetUrl : String
  context : String

/-- The pipeline definition, at the top of a working copy. -/
def definitionFile : String := "pipeline.js"

/-- Clones into a working copy. If that fails, an existing working copy is brought up to date
instead. -/
def cloneOrUpdate (url dest : String) (key : Option StagedKey) : Attempt BuildError Unit := do
  match ← request (.clone url dest key) with
  | .ok () => pure ()
  | .error failedClone =>
    check (request (.update dest key)) fun failedUpdate =>
      .clone url failedClone failedUpdate

/-- Brings a revision into a working copy. -/
def fetchRevision (url dest revision : String) (key : Option StagedKey) :
    Attempt BuildError Unit := do
  cloneOrUpdate url dest key
  check (request (.checkout dest revision)) (.checkout revision)

/-- Binds values in a sandbox. -/
def bindAll : List (String × Json) → Attempt ScriptError Unit
  | [] => pure ()
  | (name, value) :: rest => do
    check (request (.bind name value)) .bootstrap
    bindAll rest

/-- Binds the context in the open sandbox and runs the definition through the runner script. -/
def runScripts (context : ScriptContext) (definition runner : String) :
    Attempt ScriptError Unit := do
  bindAll context.bindings
  let wrapped := wrapDefinition definition
  check (request (.evaluate wrapped)) fun cause => .malformedDefinition cause wrapped
  check (request (.load runner)) (.runner runner)

/-- The address to clone from: a project with a key uses the address for it. -/
def cloneAddress (push : Push) (project : ProjectRecord) : Except BuildError String :=
  if project.hasSshKey then
    match push.repository.sshUrl with
    | some url => .ok url
    | none => .error .missingSshUrl
  else .ok push.repository.cloneUrl

/-- Brings the revision into the workspace and runs its pipeline definition there. -/
def buildRevision (settings : Settings) (push : Push) (project : ProjectRecord)
    (key : Option StagedKey) (dest url : String) : Attempt BuildError Unit := do
  fetchRevision url dest push.revision key
  let path := Path.join dest definitionFile
  let definition ← check (request (.readText path)) (.definition path)
  request (.openSandbox dest)
  check (runScripts (.ofPush push project.sshKey) definition settings.runnerScript).run .script

/-- What is done while the build has the workspace for itself. -/
def inWorkspace (settings : Settings) (push : Push) (project : ProjectRecord)
    (key : Option StagedKey) (dest : String) : Attempt BuildError Unit := do
  check (request (.makeDirectories dest)) (.workspace dest)
  let url ← ExceptT.mk (pure (cloneAddress push project))
  buildRevision settings push project key dest url

/-- Everything between the two reports. -/
def work (settings : Settings) (push : Push) (project : ProjectRecord) (key : Option StagedKey) :
    Steps (Except BuildError Unit) :=
  match Workspace.dir? settings.cacheRoot push.fullName with
  | none => return .error (.invalidRepository push.fullName)
  | some dest => do
    request (.enter dest)
    let result ← (inWorkspace settings push project key dest).run
    request (.leave dest)
    return result

/-- The message of a build that has begun. -/
def pendingMessage : String := "Building"

/-- The message of a build without a failed step. -/
def successMessage : String := "Build passed"

/-- The first report. -/
def pendingUpdate (settings : Settings) (push : Push) : StatusUpdate where
  repository := push.fullName
  revision := push.revision
  state := .pending
  message := pendingMessage
  context := settings.context
  targetUrl := settings.targetUrl

/-- The last report. -/
def finalUpdate (settings : Settings) (push : Push) (result : Except BuildError Unit) :
    StatusUpdate :=
  match result with
  | .ok () =>
      { pendingUpdate settings push with state := .success, message := successMessage }
  | .error e => { pendingUpdate settings push with state := .failure, message := e.message }

/-- A build whose key, if it has one, is staged. Whether a report arrives makes no difference. -/
def reported (settings : Settings) (push : Push) (project : ProjectRecord)
    (key : Option StagedKey) : Steps BuildState := do
  let _ ← request (.publish (pendingUpdate settings push))
  let result ← work settings push project key
  let last := finalUpdate settings push result
  let _ ← request (.publish last)
  return last.state

/-- The content of a key file: the key, with a line feed at its end. -/
def keyFileContent (key : String) : String :=
  if ['\n'].isSuffixOf key.toList then key else key ++ "\n"

/-- A whole build. Without its key it cannot begin, and nothing is reported. -/
def run (settings : Settings) (push : Push) (project : ProjectRecord) : Steps BuildState :=
  match project.usableKey with
  | none => reported settings push project none
  | some key => do
    match ← request (.stageKey (keyFileContent key)) with
    | .error _ => return .error
    | .ok staged =>
      let state ← reported settings push project (some staged)
      request (.discardKey staged)
      return state

end BuildHook.Build
