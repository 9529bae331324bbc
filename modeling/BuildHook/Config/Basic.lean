import BuildHook.Project.Record
import BuildHook.Shape.Basic
import BuildHook.Shape.View

/-!
# Configurations

Everything that can be set before the service starts. Each section, and each setting in it, may be
left out; a project needs a name.
-/

namespace BuildHook

/-- The namespace of projects that name none. -/
def defaultNamespace : String := "default"

/-- How the service is reached and where it writes its log. -/
structure ServerSection where
  bindAddress : String
  projectNamespace : String
  maxBodyBytes : Nat
  logDir : Option String
  logMaxFiles : Nat

/-- Where and how builds run. -/
structure BuildSection where
  cacheRoot : String
  runnerScript : String
  interpreter : String
  maxConcurrentBuilds : Nat

/-- How statuses are reported. -/
structure StatusSection where
  apiUrl : String
  token : Option String
  targetUrl : String
  context : String

/-- A project that may be built. Its key stands in the configuration or in a file. -/
structure ProjectEntry where
  name : String
  projectNamespace : String
  secret : String
  sshKey : Option String
  sshKeyFile : Option String
  deriving DecidableEq

/-- A configuration. -/
structure Config where
  server : ServerSection
  build : BuildSection
  status : StatusSection
  projects : List ProjectEntry

/-- A path in a document. -/
def Shape.path : Shape := .text "path string"

/-- The datum of a text that may be absent. -/
def Datum.ofOption (s : Option String) : Datum :=
  match s with
  | some s => .text s
  | none => .absent

namespace ServerSection

/-- What holds where nothing is set. -/
def standard : ServerSection where
  bindAddress := "127.0.0.1:8888"
  projectNamespace := defaultNamespace
  maxBodyBytes := 25 * 1024 * 1024
  logDir := none
  logMaxFiles := 5

/-- The section as a datum. -/
def toDatum (s : ServerSection) : Datum :=
  .record [.text s.bindAddress, .text s.projectNamespace, .natural s.maxBodyBytes,
    .ofOption s.logDir, .natural s.logMaxFiles]

/-- The form of the section. -/
def shape : Shape :=
  .record "struct ServerConfig"
    [.defaulted "bind_address" (.text standard.bindAddress) .string,
      .defaulted "namespace" (.text standard.projectNamespace) .string,
      .defaulted "max_body_bytes" (.natural standard.maxBodyBytes) .natural,
      .maybe "log_dir" .path,
      .defaulted "log_max_files" (.natural standard.logMaxFiles) .natural]

/-- The section that a datum of this shape holds. -/
def ofDatum (d : Datum) : ServerSection where
  bindAddress := d.textField 0
  projectNamespace := d.textField 1
  maxBodyBytes := (d.field 2).asNatural
  logDir := d.maybeText 3
  logMaxFiles := (d.field 4).asNatural

end ServerSection

namespace BuildSection

/-- What holds where nothing is set. -/
def standard : BuildSection where
  cacheRoot := "_cache"
  runnerScript := "js/runner.js"
  interpreter := "node"
  maxConcurrentBuilds := 4

/-- The section as a datum. -/
def toDatum (s : BuildSection) : Datum :=
  .record [.text s.cacheRoot, .text s.runnerScript, .text s.interpreter,
    .natural s.maxConcurrentBuilds]

/-- The form of the section. -/
def shape : Shape :=
  .record "struct BuildConfig"
    [.defaulted "cache_root" (.text standard.cacheRoot) .path,
      .defaulted "runner_script" (.text standard.runnerScript) .path,
      .defaulted "interpreter" (.text standard.interpreter) .string,
      .defaulted "max_concurrent_builds" (.natural standard.maxConcurrentBuilds) .natural]

/-- The section that a datum of this shape holds. -/
def ofDatum (d : Datum) : BuildSection where
  cacheRoot := d.textField 0
  runnerScript := d.textField 1
  interpreter := d.textField 2
  maxConcurrentBuilds := (d.field 3).asNatural

end BuildSection

namespace StatusSection

/-- What holds where nothing is set. -/
def standard : StatusSection where
  apiUrl := "https://api.github.com"
  token := none
  targetUrl := "http://localhost:8888"
  context := "pushbuild"

/-- The section as a datum. -/
def toDatum (s : StatusSection) : Datum :=
  .record [.text s.apiUrl, .ofOption s.token, .text s.targetUrl, .text s.context]

/-- The form of the section. -/
def shape : Shape :=
  .record "struct StatusConfig"
    [.defaulted "api_url" (.text standard.apiUrl) .string, .maybe "token" .string,
      .defaulted "target_url" (.text standard.targetUrl) .string,
      .defaulted "context" (.text standard.context) .string]

/-- The section that a datum of this shape holds. -/
def ofDatum (d : Datum) : StatusSection where
  apiUrl := d.textField 0
  token := d.maybeText 1
  targetUrl := d.textField 2
  context := d.textField 3

end StatusSection

namespace ProjectEntry

/-- The form of a project. Its last two settings may be left out by name only. -/
def shape : Shape :=
  .record "struct ProjectConfig"
    [.required "name" .string, .defaulted "namespace" (.text defaultNamespace) .string,
      .defaulted "secret" (.text "") .string,
      ⟨"ssh_key", some .absent, false, .optional .string⟩,
      ⟨"ssh_key_file", some .absent, false, .optional .path⟩]

/-- The project that a datum of this shape holds. -/
def ofDatum (d : Datum) : ProjectEntry where
  name := d.textField 0
  projectNamespace := d.textField 1
  secret := d.textField 2
  sshKey := d.maybeText 3
  sshKeyFile := d.maybeText 4

/-- Whether a secret is configured. -/
def hasValidSecret (project : ProjectEntry) : Bool := project.secret != ""

/-- What builds know of a project. -/
def record (project : ProjectEntry) : ProjectRecord :=
  ⟨project.name, project.secret, project.sshKey⟩

/-- The project as it is shown in logs. Neither the secret nor the key appears. -/
def shown (project : ProjectEntry) : String :=
  "ProjectConfig \x7b name: " ++ Text.quoted project.name
    ++ ", namespace: " ++ Text.quoted project.projectNamespace
    ++ ", secret: " ++ ProjectRecord.redacted
    ++ ", ssh_key: "
    ++ ProjectRecord.shownOption (project.sshKey.map fun _ => ProjectRecord.redacted)
    ++ ", ssh_key_file: "
    ++ ProjectRecord.shownOption (project.sshKeyFile.map Text.quotedPath) ++ " \x7d"

end ProjectEntry

namespace Config

/-- The form of a configuration. -/
def shape : Shape :=
  .record "struct PipelineConfig"
    [.defaulted "server" ServerSection.standard.toDatum ServerSection.shape,
      .defaulted "build" BuildSection.standard.toDatum BuildSection.shape,
      .defaulted "status" StatusSection.standard.toDatum StatusSection.shape,
      .defaulted "project" (.list []) (.list ProjectEntry.shape)]

/-- The configuration that a datum of this shape holds. -/
def ofDatum (d : Datum) : Config where
  server := .ofDatum (d.field 0)
  build := .ofDatum (d.field 1)
  status := .ofDatum (d.field 2)
  projects := (d.field 3).asList.map .ofDatum

/-- The configuration in which nothing is set. -/
def standard : Config := ⟨.standard, .standard, .standard, []⟩

end Config

end BuildHook
