import BuildHook.Http.Message

/-!
# Refused notifications

Why a notification is refused, and the response that tells the sender. No response holds a digest or
tells why a lookup failed.
-/

namespace BuildHook

/-- Why a notification is refused. -/
inductive WebhookError where
  | malformedBody
  | invalidPayload (cause : String)
  | unsupportedEvent (event : String)
  | projectNotFound
  | secretNotConfigured
  | signatureMismatch

namespace WebhookError

/-- The message of an error. -/
def message : WebhookError → String
  | .malformedBody => "Malformed body"
  | .invalidPayload cause => cause
  | .unsupportedEvent event => "Only 'push' is supported. Got " ++ event
  | .projectNotFound => "project not found"
  | .secretNotConfigured => "No secret is configured for this repo."
  | .signatureMismatch => "malformed signature"

/-- The status code of the response. -/
def statusCode : WebhookError → Nat
  | .malformedBody => 400
  | .invalidPayload _ => 400
  | .unsupportedEvent _ => 400
  | .projectNotFound => 400
  | .secretNotConfigured => 500
  | .signatureMismatch => 403

/-- The response. -/
def response (e : WebhookError) : Http.Response :=
  .json e.statusCode (.object [("status", .string e.message)])

end WebhookError

end BuildHook
