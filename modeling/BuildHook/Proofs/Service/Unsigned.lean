import BuildHook.Proofs.Project.Secrets
import BuildHook.Proofs.Webhook.Gate
import BuildHook.Service.Router

/-!
# Requests without their signatures

A signature tells the service one thing only, whether it is right. Two requests that differ in their
signatures are treated the same if these are both right, or both wrong.

## Main results

`react_alike` compares the two requests up to the lookup of the project, `settle_same` from there
on.
-/

namespace BuildHook

namespace Http.Request

/-- A request without its signature. -/
def unsigned (request : Request) : Request :=
  { request with
    headers := request.headers.filter fun header =>
      lowered header.1 != lowered Webhook.signatureHeader }

theorem header?_unsigned {name : String} (other : lowered name ≠ lowered Webhook.signatureHeader)
    (request : Request) : request.unsigned.header? name = request.header? name := by
  rw [header?, header?, unsigned, List.find?_filter]
  congr 2
  funext header
  by_cases named : lowered header.1 = lowered name
  · simp [named, other]
  · simp [named]

end Http.Request

namespace Webhook

instance (request : Http.Request) : Decidable (IsNotification request) :=
  inferInstanceAs (Decidable (_ ∧ _))

instance (request : Http.Request) : Decidable (ReportsPush request) :=
  inferInstanceAs (Decidable (_ = _))

theorem lowered_headers_ne :
    Http.lowered "X-GitHub-Event" ≠ Http.lowered "X-Hub-Signature-256" := by
  decide +kernel

/-- The push that a request reports, if its project is looked up. -/
def pushOf? (server : ServerSection) (request : Http.Request) : Option Push :=
  if IsNotification request ∧ ReportsPush request ∧ request.body.length ≤ server.maxBodyBytes then
    (Push.ofBytes request.body).toOption
  else none

end Webhook

namespace Service

open Webhook (IsNotification ReportsPush pushOf? addressOf judgeSigned)

/-- The reaction to a push, by what the project store answers. -/
def settle (request : Http.Request) (push : Push) :
    Except ResolveError ProjectRecord → Reaction
  | .error _ => .only WebhookError.projectNotFound.response
  | .ok project =>
    ⟨(judgeSigned request push project).response, (judgeSigned request push project).build?⟩

/-- How two requests are treated that differ at most in their signatures: they are answered the same
without a lookup, or the same project is looked up for both. -/
inductive ReactAlike (server : ServerSection) (request request' : Http.Request) :
    Webhook.Lookup Reaction → Webhook.Lookup Reaction → Prop
  | answered (response : Http.Response) :
      ReactAlike server request request' (.done (.only response)) (.done (.only response))
  | looksUp (push : Push) {next next'} (reports : pushOf? server request = some push)
      (reports' : pushOf? server request' = some push)
      (settles : ∀ answer, next answer = .done (settle request push answer))
      (settles' : ∀ answer, next' answer = .done (settle request' push answer)) :
      ReactAlike server request request' (.ask (addressOf server push) next)
        (.ask (addressOf server push) next')

/-- The reaction does not depend on the secrets and the keys of the configuration. -/
theorem react_config {config config' : Config} (same : config.SameButSecrets config')
    (figures : Figures) (request : Http.Request) :
    react config figures request = react config' figures request := by
  have page : statusPage config figures = statusPage config' figures := by
    rw [statusPage, statusPage, same.build, same.projects.length_eq]
  rw [react, react, same.server, page]

section Unsigned

variable {request request' : Http.Request} (same : request.unsigned = request'.unsigned)

theorem showPage_alike (server : ServerSection) (page : Http.Response) :
    ReactAlike server request request' (.done (showPage request page))
      (.done (showPage request page)) := by
  unfold showPage
  split
  · exact .answered _
  · split <;> exact .answered _

include same

theorem event_eq : request.header? Webhook.eventHeader = request'.header? Webhook.eventHeader := by
  have event := Http.Request.header?_unsigned Webhook.lowered_headers_ne
  rw [Webhook.eventHeader, ← event request, same, event request']

theorem pushOf_eq (server : ServerSection) : pushOf? server request = pushOf? server request' := by
  have body : request.body = request'.body := (congrArg Http.Request.body same :)
  have method : request.method = request'.method := (congrArg Http.Request.method same :)
  have path : request.path = request'.path := (congrArg Http.Request.path same :)
  have event : ReportsPush request ↔ ReportsPush request' :=
    iff_of_eq (congrArg (· = some (Utf8.encode "push")) (event_eq same))
  refine if_congr ?_ (by rw [body]) rfl
  rw [IsNotification, IsNotification, body, method, path, event]

theorem judge_alike (server : ServerSection) (notification : IsNotification request) :
    ReactAlike server request request'
      ((Webhook.judge server request).andThen fun verdict =>
        .done ⟨verdict.response, verdict.build?⟩)
      ((Webhook.judge server request').andThen fun verdict =>
        .done ⟨verdict.response, verdict.build?⟩) := by
  have body : request.body = request'.body := (congrArg Http.Request.body same :)
  have events : Webhook.eventOf request' = Webhook.eventOf request := by
    rw [Webhook.eventOf, Http.Request.header, ← event_eq same]
    rfl
  rw [Webhook.judge, Webhook.judge, events]
  rcases Webhook.eventOf_cases request with ⟨-, missing | ping⟩ | ⟨reports, push⟩ |
    ⟨event, -, -, unsupported⟩
  · rw [missing]
    exact .answered _
  · rw [ping]
    exact .answered _
  -- Everything up to the lookup is decided by the body alone.
  · rw [push]
    simp only [Webhook.judgePush, ← body]
    split
    · exact .answered _
    · next short =>
      have short := Nat.le_of_not_lt short
      cases decoded : Push.ofBytes request.body with
      | error e => exact .answered _
      | ok push =>
        have found : pushOf? server request = some push := by
          rw [pushOf?, if_pos ⟨notification, reports, short⟩, decoded]
          rfl
        refine .looksUp push found (pushOf_eq same server ▸ found) (fun answer => ?_)
          fun answer => ?_
        · cases answer <;> rfl
        · cases answer <;> rfl
  · rw [unsupported]
    exact .answered _

/-- Requests that differ at most in their signatures are treated alike. -/
theorem react_alike (config : Config) (figures : Figures) :
    ReactAlike config.server request request' (react config figures request)
      (react config figures request') := by
  have method : request.method = request'.method := (congrArg Http.Request.method same :)
  have path : request.path = request'.path := (congrArg Http.Request.path same :)
  have query : request.query = request'.query := (congrArg Http.Request.query same :)
  have pages (page : Http.Response) : showPage request' page = showPage request page := by
    rw [showPage, showPage, method]
  have health : healthPage figures request' = healthPage figures request := by
    rw [healthPage, healthPage, query]
  rw [react, react, ← path, pages, pages, health]
  split
  · exact showPage_alike config.server _
  · split
    · exact showPage_alike config.server _
    · split
      · next place =>
        rw [receive, receive, ← method]
        split
        · next posted => exact judge_alike same config.server ⟨posted, place⟩
        · exact .answered _
      · exact .answered _

end Unsigned

/-- Whether the signature of a request is right, if it is checked: the project is known and has a
secret. -/
def signed? (request : Http.Request) : Except ResolveError ProjectRecord → Option Bool
  | .error _ => none
  | .ok project =>
    if project.secret = "" then none
    else some (Signature.verify (Utf8.encode project.secret) request.body
      (request.header Webhook.signatureHeader))

/-- Two reactions with the same response that start the same build, but for secrets and keys. -/
structure Reaction.Same (reaction reaction' : Reaction) : Prop where
  response : reaction.response = reaction'.response
  build : Option.Rel (fun started started' => started.1 = started'.1
    ∧ started.2.SameButSecrets started'.2) reaction.build? reaction'.build?

theorem settle_same {request request' : Http.Request} (push : Push)
    {answer answer' : Except ResolveError ProjectRecord} (found : SameFound answer answer')
    (checks : signed? request answer = signed? request' answer') :
    (settle request push answer).Same (settle request' push answer') := by
  cases found with
  | missing cause cause' => exact ⟨rfl, .none⟩
  | @known project project' same =>
    simp only [settle, judgeSigned]
    by_cases secret : project.secret = ""
    · rw [if_pos secret, if_pos (same.secret.mp secret)]
      exact ⟨rfl, .none⟩
    · have secret' : project'.secret ≠ "" := fun empty => secret (same.secret.mpr empty)
      rw [signed?, if_neg secret, signed?, if_neg secret'] at checks
      rw [if_neg secret, if_neg secret', Option.some.inj checks]
      split
      · exact ⟨rfl, .some ⟨rfl, same⟩⟩
      · exact ⟨rfl, .none⟩

end Service

end BuildHook
