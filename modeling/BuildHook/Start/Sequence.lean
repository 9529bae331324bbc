import BuildHook.Config.Load
import BuildHook.Environment.File
import BuildHook.Start.Address

/-!
# Starting the service

Variables are read from a file beside those of the environment, then the configuration is loaded,
the log is opened, and the service listens at its address. The first step that fails ends the start.
-/

namespace BuildHook.Start

/-- Why the service could not be started. -/
inductive StartError where
  | configuration (cause : Config.LoadError)
  | log (directory : String) (cause : IoError)
  | io (cause : IoError)

/-- The message of an error. -/
def StartError.message : StartError → String
  | .configuration cause => "Configuration error: " ++ cause.message
  | .log directory cause =>
    "Configuration error: Failed to create log file in '" ++ directory ++
      "': failed to create initial log file: " ++ cause.message
  | .io cause => "IO error: " ++ cause.message

/-- What the start asks of its surroundings. -/
inductive Request where
  | readBytes (path : String)
  | readText (path : String)
  | makeDirectories (path : String)
  | openLog (directory : String)
  | listen (host : String) (port : Nat)

/-- What the surroundings answer. -/
def Reply : Request → Type
  | .readBytes _ => Except IoError Bytes
  | .readText _ => Except IoError String
  | .makeDirectories _ => Except IoError Unit
  | .openLog _ => Except IoError Unit
  | .listen .. => Except IoError Unit

/-- A procedure that makes requests of the start. -/
abbrev Steps := Procedure Request Reply

/-- Makes a request. -/
def request (r : Request) : Steps (Reply r) := Procedure.question r

/-- The file with further variables. -/
def variablesFile : String := ".env"

/-- The variable that names the configuration file. -/
def configVariable : String := "PUSHBUILD_CONFIG"

/-- The configuration file, unless another one is named. -/
def standardConfigFile : String := "pushbuild.toml"

/-- The variable that replaces the configured address. -/
def addressVariable : String := "BIND_ADDRESS"

/-- The environment with the variables of the file, if it can be read. -/
def fullEnvironment (environment : Environment) : Steps Environment := do
  match ← request (.readBytes variablesFile) with
  | .ok content => return environment.loadFile content
  | .error _ => return environment

/-- A step that can fail, and what its failure means. -/
def step (meaning : IoError → StartError) (answer : Steps (Except IoError Unit)) :
    ExceptT StartError Steps Unit :=
  ExceptT.mk do return (← answer).mapError meaning

/-- Opens the log in a directory, which is made if it is missing. -/
def openLog (directory : String) : ExceptT StartError Steps Unit := do
  step .io (request (.makeDirectories directory))
  step (.log directory) (request (.openLog directory))

/-- Opens the log, if there is one. -/
def prepareLog (server : ServerSection) : ExceptT StartError Steps Unit :=
  match server.logDir with
  | none => pure ()
  | some directory => openLog directory

/-- Listens at an address. -/
def listen (address : String) : ExceptT StartError Steps Unit :=
  match Address.parse address with
  | .error cause => ExceptT.mk (return .error (.io cause))
  | .ok (host, port) => step .io (request (.listen host port))

/-- Loads the configuration that an environment asks for. -/
def loadConfig (environment : Environment) : ExceptT StartError Steps Config := do
  let path := (environment.get? configVariable).getD standardConfigFile
  let loading := (Config.load path).expand fun file => request (.readText file)
  let config ← ExceptT.mk do return (← loading).mapError .configuration
  match environment.get? addressVariable with
  | none => return config
  | some address => return { config with server.bindAddress := address }

/-- Starts the service in an environment. -/
def run (environment : Environment) : Steps (Except StartError Config) := do
  let environment ← fullEnvironment environment
  (do
    let config ← loadConfig environment
    prepareLog config.server
    listen config.server.bindAddress
    return config : ExceptT StartError Steps Config).run

/-- What is told when the service is ready. -/
def readyText (config : Config) : String := "Ready to listen on " ++ config.server.bindAddress

end BuildHook.Start
