import BuildHook.Event
import BuildHook.Project.Resolver
import BuildHook.Procedure
import BuildHook.Push.Basic
import BuildHook.Signature
import BuildHook.Webhook.Error

/-!
# Verdicts on notifications

A notification is accepted if it reports a push, is not too long, can be read, names a known project
with a secret, and is signed with that secret. The first of these that does not hold decides the
answer. The project store is asked at most once.
-/

namespace BuildHook.Webhook

/-- What becomes of a notification. -/
inductive Verdict where
  | acknowledged
  | refused (e : WebhookError)
  | accepted (push : Push) (project : ProjectRecord)

/-- The header that names the event. -/
def eventHeader : String := "X-GitHub-Event"

/-- The header that holds the signature. -/
def signatureHeader : String := "X-Hub-Signature-256"

/-- The event that a request reports. -/
def eventOf (request : Http.Request) : Event :=
  .ofName (Utf8.decodeLossy (request.header eventHeader))

/-- A procedure that looks projects up. -/
abbrev Lookup := Procedure ProjectAddress fun _ => Except ResolveError ProjectRecord

/-- Where the project of a push is looked up. -/
def addressOf (server : ServerSection) (push : Push) : ProjectAddress :=
  ⟨Project.key push.fullName, server.projectNamespace⟩

/-- The verdict on a push of a known project. -/
def judgeSigned (request : Http.Request) (push : Push) (project : ProjectRecord) : Verdict :=
  if project.secret = "" then .refused .secretNotConfigured
  else if Signature.verify (Utf8.encode project.secret) request.body
      (request.header signatureHeader) then .accepted push project
  else .refused .signatureMismatch

/-- The verdict on a notification that reports a push. -/
def judgePush (server : ServerSection) (request : Http.Request) : Lookup Verdict :=
  if server.maxBodyBytes < request.body.length then return .refused .malformedBody
  else
    match Push.ofBytes request.body with
    | .error e => return .refused (.invalidPayload e.message)
    | .ok push => do
      match ← Procedure.question (addressOf server push) with
      | .error _ => return .refused .projectNotFound
      | .ok project => return judgeSigned request push project

/-- The verdict on a notification. -/
def judge (server : ServerSection) (request : Http.Request) : Lookup Verdict :=
  match eventOf request with
  | .missing => return .acknowledged
  | .ping => return .acknowledged
  | .unsupported event => return .refused (.unsupportedEvent event)
  | .push => judgePush server request

namespace Verdict

/-- The response to a notification. -/
def response : Verdict → Http.Response
  | .acknowledged => .json 200 (.object [("message", .string "OK")])
  | .refused e => e.response
  | .accepted _ _ => .json 200 (.object [("status", .string "Complete")])

/-- The build that a notification starts. -/
def build? : Verdict → Option (Push × ProjectRecord)
  | .accepted push project => some (push, project)
  | _ => none

end Verdict

end BuildHook.Webhook
