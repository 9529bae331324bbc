import BuildHook.Path
import BuildHook.Start.Sequence

/-!
# The command

Starts the service in the environment of the process. The network is not part of this library: when
all is prepared, the address is told to whoever connects it to `Service.react`.
-/

namespace BuildHook.Main

/-- The cause behind an error of the system. -/
def ioErrorOf : IO.Error → IoError
  | .alreadyExists _ code _ => .os code.toNat
  | .otherError code _ => .os code.toNat
  | .resourceBusy code _ => .os code.toNat
  | .resourceVanished code _ => .os code.toNat
  | .unsupportedOperation code _ => .os code.toNat
  | .hardwareFault code _ => .os code.toNat
  | .unsatisfiedConstraints code _ => .os code.toNat
  | .illegalOperation code _ => .os code.toNat
  | .protocolError code _ => .os code.toNat
  | .timeExpired code _ => .os code.toNat
  | .interrupted _ code _ => .os code.toNat
  | .noFileOrDirectory _ code _ => .os code.toNat
  | .invalidArgument _ code _ => .os code.toNat
  | .permissionDenied _ code _ => .os code.toNat
  | .resourceExhausted _ code _ => .os code.toNat
  | .inappropriateType _ code _ => .os code.toNat
  | .noSuchThing _ code _ => .os code.toNat
  | .unexpectedEof => .other "unexpected end of file"
  | .userError text => .other text

/-- Runs an action and names the cause of its failure. -/
def attempt {α : Type} (action : IO α) : IO (Except IoError α) := do
  match ← action.toBaseIO with
  | .ok result => return .ok result
  | .error e => return .error (ioErrorOf e)

/-- The content of a file. -/
def readBytes (path : String) : IO (Except IoError Bytes) := do
  if Path.hasNul path then return .error .nulInPath
  return (← attempt (IO.FS.readBinFile path)).map fun content => content.toList

/-- The content of a file as text. -/
def readText (path : String) : IO (Except IoError String) := do
  match ← readBytes path with
  | .error cause => return .error cause
  | .ok content =>
    match Utf8.decode? content with
    | some text => return .ok text
    | none => return .error .notUtf8

/-- The name of the log file. -/
def logFile : String := "pushbuild.log"

/-- Answers a request of the start. -/
def answer : (r : Start.Request) → IO (Start.Reply r)
  | .readBytes path => readBytes path
  | .readText path => readText path
  | .makeDirectories path => attempt (IO.FS.createDirAll path)
  | .openLog directory => do
    return (← attempt (IO.FS.Handle.mk (Path.join directory logFile) .append)).map fun _ => ()
  | .listen .. => return .ok ()

/-- Answers the requests of the start until it ends. -/
def perform {α : Type} : Start.Steps α → IO α
  | .done result => return result
  | .ask r next => do perform (next (← answer r))

/-- Where the system shows the environment of a process. -/
def environmentFile : String := "/proc/self/environ"

/-- The variables in a text in which each ends with a zero byte. -/
def environmentOf (content : Bytes) : Environment :=
  (Text.splitAll 0 content).filterMap fun entry =>
    if entry.contains 61 then
      some (Utf8.decodeLossy (entry.takeWhile (· != 61)),
        Utf8.decodeLossy ((entry.dropWhile (· != 61)).drop 1))
    else none

end BuildHook.Main

/-- Starts the service, or tells why it cannot be started. -/
def main : IO UInt32 := do
  let content ← BuildHook.Main.readBytes BuildHook.Main.environmentFile
  let environment := BuildHook.Main.environmentOf (content.toOption.getD [])
  match ← BuildHook.Main.perform (BuildHook.Start.run environment) with
  | .error e => do
    IO.eprintln e.message
    return 1
  | .ok config => do
    IO.println (BuildHook.Start.readyText config)
    return 0
