import BuildHook.Config.Basic
import BuildHook.Json.Printer
import BuildHook.Procedure
import BuildHook.Status.Update
import BuildHook.Url.Parser

/-!
# Status reports

With an API token, statuses are posted to the status API of the repository's host; without one they
are only written to the log. A status that cannot be posted, or is not accepted, is an error.
-/

namespace BuildHook.Status

/-- Where statuses are reported. -/
inductive Reporter where
  | log
  | api (url token : String)

/-- A text without the slashes at its end. -/
def withoutSlashes (s : String) : String :=
  String.ofList (s.toList.reverse.dropWhile (· = '/')).reverse

/-- The reporter of a configuration. A token that is not configured is taken from the environment;
an empty one counts for nothing. -/
def Reporter.ofSection (settings : StatusSection) (environmentToken : Option String) : Reporter :=
  match (settings.token <|> environmentToken).filter (· != "") with
  | some token => .api (withoutSlashes settings.apiUrl) token
  | none => .log

/-- The longest description, in characters. -/
def maxDescription : Nat := 140

/-- What stands for the rest of a description that is too long. -/
def ellipsis : String := "..."

/-- The description of a message. -/
def description (message : String) : String :=
  if message.length ≤ maxDescription then message
  else String.ofList (message.toList.take (maxDescription - ellipsis.length)) ++ ellipsis

/-- The name by which the service introduces itself. -/
def userAgent : String := "pushbuild/0.1.0"

/-- A request to the status API. -/
structure Post where
  url : Url
  authorization : String
  accept : String
  userAgent : String
  contentType : String
  body : String

/-- What the status API answers, if it can be reached. -/
structure Answer where
  code : Nat
  body : Bytes

/-- A procedure that talks to the status API. -/
abbrev Exchange := Procedure Post fun _ => Option Answer

/-- The address of a status. -/
def address (apiUrl : String) (update : StatusUpdate) : String :=
  apiUrl ++ "/repos/" ++ update.repository ++ "/statuses/" ++ update.revision

/-- The content of a request. -/
def content (update : StatusUpdate) : Json :=
  .object [("state", update.state.toJson), ("target_url", .string update.targetUrl),
    ("description", .string (description update.message)), ("context", .string update.context)]

/-- Whether a text can be the value of a header. -/
def isHeaderValue (s : String) : Bool :=
  s.toList.all fun c => c = '\t' || (0x20 ≤ c.toNat && c.toNat != 0x7F)

/-- The request that posts a status, if its address and the token are usable. Messages do not show the
user information of an address. -/
def post (apiUrl token : String) (update : StatusUpdate) : Except TransportError Post :=
  match Url.parse? (address apiUrl update) with
  | none => .error .unusable
  | some url =>
    let authorization := "Bearer " ++ token
    if !url.hasHost then .error (.unusableUrl url.render)
    else if !isHeaderValue authorization then .error .unusable
    else
      let url := url.withoutUser
      if !url.isWeb || !url.canBeAsked then .error (.unusableUrl url.render)
      else .ok
        { url, authorization, accept := "application/vnd.github+json", userAgent
          contentType := "application/json", body := (content update).render }

/-- Whether a status code means that a status was accepted. -/
def isSuccess (code : Nat) : Bool := 200 ≤ code && code < 300

/-- What the answer to a request means. -/
def outcome (request : Post) : Option Answer → Except StatusError Unit
  | none => .error (.request (.notSent request.url.render))
  | some answer =>
    if isSuccess answer.code then .ok ()
    else .error (.rejected answer.code (Utf8.decodeLossy answer.body))

/-- Reports a status. -/
def publish (reporter : Reporter) (update : StatusUpdate) : Exchange (Except StatusError Unit) :=
  match reporter with
  | .log => return .ok ()
  | .api url token =>
    match post url token update with
    | .error cause => return .error (.request cause)
    | .ok request => do return outcome request (← Procedure.question request)

end BuildHook.Status
