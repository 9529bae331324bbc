/-!
# Webhook events

What a webhook request announces, by the value of its event header.
-/

namespace BuildHook

/-- The kinds of event. A request without an event, or with an empty one, announces nothing. -/
inductive Event where
  | missing
  | ping
  | push
  | unsupported (name : String)
  deriving DecidableEq

namespace Event

/-- The event name of a push. -/
def pushName : String := "push"

/-- The event name of a connection test. -/
def pingName : String := "ping"

/-- The event of a header value. -/
def ofName (name : String) : Event :=
  if name = "" then .missing
  else if name = pingName then .ping
  else if name = pushName then .push
  else .unsupported name

end Event

end BuildHook
