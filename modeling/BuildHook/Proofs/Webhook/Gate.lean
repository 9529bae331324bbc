import BuildHook.Proofs.Text.Utf8
import BuildHook.Webhook.Verdict

/-!
# The gate

Under which conditions a notification is accepted, and how it is answered if one of them does not
hold. The conditions are put down here in the order in which they count, independently of how they
are checked.

## Main results

`judge_cases` says that every notification is judged by them.
-/

namespace BuildHook.Webhook

/-- Whether a request is a notification. -/
def IsNotification (request : Http.Request) : Prop :=
  request.method = "POST" ∧ request.path = "/webhook"

/-- Whether a request reports a push: its first event header is exactly `push`. -/
def ReportsPush (request : Http.Request) : Prop :=
  request.header? "X-GitHub-Event" = some (Utf8.encode "push")

/-- Whether the body of a request is short enough, and reads as a push. -/
def Carries (server : ServerSection) (request : Http.Request) (push : Push) : Prop :=
  request.body.length ≤ server.maxBodyBytes ∧ Push.ofBytes request.body = .ok push

/-- Whether the body of a request is signed with a secret, by its first signature header. -/
def SignedWith (secret : String) (request : Http.Request) : Prop :=
  Signature.verify (Utf8.encode secret) request.body
    ((request.header? "X-Hub-Signature-256").getD []) = true

/-- What all accepted requests have in common, and for which push and project they are. The project
store answers as given. -/
structure Accepted (server : ServerSection)
    (answer : ProjectAddress → Except ResolveError ProjectRecord) (request : Http.Request)
    (push : Push) (project : ProjectRecord) : Prop where
  notification : IsNotification request
  event : ReportsPush request
  body : Carries server request push
  known : answer ⟨Project.key push.fullName, server.projectNamespace⟩ = .ok project
  secret : project.secret ≠ ""
  signed : SignedWith project.secret request

/-- The answer to an accepted request. -/
def complete : Http.Response := .json 200 (.object [("status", .string "Complete")])

/-- An answer that tells why a request is refused. -/
def refusal (status : Nat) (reason : String) : Http.Response :=
  .json status (.object [("status", .string reason)])

/-- How a notification is answered that is not accepted: the first condition that does not hold
decides. -/
inductive Refused (server : ServerSection)
    (answer : ProjectAddress → Except ResolveError ProjectRecord) (request : Http.Request) :
    Http.Response → Prop
  | idle (event : request.header? "X-GitHub-Event" ∈ [none, some [], some (Utf8.encode "ping")]) :
      Refused server answer request (.json 200 (.object [("message", .string "OK")]))
  | unsupported {event : Bytes} (present : request.header? "X-GitHub-Event" = some event)
      (other : event ∉ [[], Utf8.encode "ping", Utf8.encode "push"]) :
      Refused server answer request
        (refusal 400 ("Only 'push' is supported. Got " ++ Utf8.decodeLossy event))
  | tooLong (event : ReportsPush request) (long : server.maxBodyBytes < request.body.length) :
      Refused server answer request (refusal 400 "Malformed body")
  | unreadable {e : Json.Error} (event : ReportsPush request)
      (short : request.body.length ≤ server.maxBodyBytes)
      (unread : Push.ofBytes request.body = .error e) :
      Refused server answer request (refusal 400 e.message)
  | unknown {push : Push} {cause : ResolveError} (event : ReportsPush request)
      (body : Carries server request push)
      (missing : answer ⟨Project.key push.fullName, server.projectNamespace⟩ = .error cause) :
      Refused server answer request (refusal 400 "project not found")
  | unsecured {push : Push} {project : ProjectRecord} (event : ReportsPush request)
      (body : Carries server request push)
      (known : answer ⟨Project.key push.fullName, server.projectNamespace⟩ = .ok project)
      (secret : project.secret = "") :
      Refused server answer request (refusal 500 "No secret is configured for this repo.")
  | unsigned {push : Push} {project : ProjectRecord} (event : ReportsPush request)
      (body : Carries server request push)
      (known : answer ⟨Project.key push.fullName, server.projectNamespace⟩ = .ok project)
      (secret : project.secret ≠ "") (forged : ¬ SignedWith project.secret request) :
      Refused server answer request (refusal 403 "malformed signature")

variable {server : ServerSection} {answer : ProjectAddress → Except ResolveError ProjectRecord}
  {request : Http.Request}

/-- Whoever is refused is not accepted. -/
theorem Refused.not_accepted {response : Http.Response}
    (refused : Refused server answer request response) (push : Push) (project : ProjectRecord) :
    ¬ Accepted server answer request push project := by
  rintro ⟨-, event, ⟨short, decoded⟩, known, secret, signed⟩
  cases refused with
  | idle other =>
    rw [event] at other
    exact absurd other (by decide)
  | unsupported present other =>
    rw [event] at present
    cases present
    exact other (by simp)
  | tooLong _ long => exact absurd long (Nat.not_lt_of_le short)
  | unreadable _ _ unread => cases decoded.symm.trans unread
  | unknown _ body missing =>
    cases decoded.symm.trans body.2
    cases known.symm.trans missing
  | unsecured _ body known' empty =>
    cases decoded.symm.trans body.2
    cases known.symm.trans known'
    exact secret empty
  | unsigned _ body known' _ forged =>
    cases decoded.symm.trans body.2
    cases known.symm.trans known'
    exact forged signed

theorem isAscii_event : ∀ text ∈ ["", "ping", "push"], ∀ c ∈ text.toList, c.toNat < 128 := by
  simp

/-- The event that a request reports is told by the bytes of its first event header. -/
theorem eventOf_cases (request : Http.Request) :
    (request.header? "X-GitHub-Event" ∈ [none, some [], some (Utf8.encode "ping")]
      ∧ (eventOf request = .missing ∨ eventOf request = .ping))
    ∨ (ReportsPush request ∧ eventOf request = .push)
    ∨ ∃ event, request.header? "X-GitHub-Event" = some event
      ∧ event ∉ [[], Utf8.encode "ping", Utf8.encode "push"]
      ∧ eventOf request = .unsupported (Utf8.decodeLossy event) := by
  unfold ReportsPush eventOf Http.Request.header eventHeader
  cases request.header? "X-GitHub-Event" with
  | none =>
    refine .inl ⟨by simp, .inl ?_⟩
    rw [Option.getD_none, (Utf8.decodeLossy_eq_iff (isAscii_event "" (by decide)) []).mpr rfl]
    rfl
  | some event =>
    have missing := Utf8.decodeLossy_eq_iff (isAscii_event "" (by decide)) event
    have ping := Utf8.decodeLossy_eq_iff (isAscii_event "ping" (by decide)) event
    have push := Utf8.decodeLossy_eq_iff (isAscii_event "push" (by decide)) event
    by_cases hm : event = Utf8.encode ""
    · exact .inl ⟨by simp [hm, Utf8.encode], .inl (by simp [Event.ofName, missing.mpr hm])⟩
    · by_cases hi : event = Utf8.encode "ping"
      · refine .inl ⟨by simp [hi], .inr ?_⟩
        rw [Option.getD_some, ping.mpr hi]
        decide
      · by_cases hp : event = Utf8.encode "push"
        · refine .inr (.inl ⟨by rw [hp], ?_⟩)
          rw [Option.getD_some, push.mpr hp]
          decide
        · refine .inr (.inr ⟨event, rfl, ?_, ?_⟩)
          · simp only [List.mem_cons, List.not_mem_nil, or_false, not_or]
            exact ⟨hm, hi, hp⟩
          · simp [Event.ofName, Event.pingName, Event.pushName, missing, ping, push, hm, hi, hp]

variable {σ : Type}

/-- A signed push of a known project is accepted or refused. -/
theorem judgeSigned_cases (server : ServerSection)
    (answer : ProjectAddress → Except ResolveError ProjectRecord)
    (notification : IsNotification request) (event : ReportsPush request) {push : Push}
    (body : Carries server request push) {project : ProjectRecord}
    (known : answer ⟨Project.key push.fullName, server.projectNamespace⟩ = .ok project) :
    (judgeSigned request push project = .accepted push project
      ∧ Accepted server answer request push project)
    ∨ (judgeSigned request push project).build? = none
      ∧ Refused server answer request (judgeSigned request push project).response := by
  unfold judgeSigned
  split
  · next secret => exact .inr ⟨rfl, .unsecured event body known secret⟩
  · next secret =>
    split
    · next signed => exact .inl ⟨rfl, notification, event, body, known, secret, signed⟩
    · next forged => exact .inr ⟨rfl, .unsigned event body known secret forged⟩

/-- Every notification is accepted or refused, by what the project store answers. -/
theorem judge_cases (server : ServerSection) (notification : IsNotification request)
    (look : ProjectAddress → σ → Except ResolveError ProjectRecord × σ) (store : σ) :
    let verdict := ((judge server request).run look store).1
    let answer := fun address => (look address store).1
    (∃ push project, verdict = .accepted push project
      ∧ Accepted server answer request push project)
    ∨ verdict.build? = none ∧ Refused server answer request verdict.response := by
  intro verdict answer
  rcases eventOf_cases request with ⟨idle, missing | ping⟩ | ⟨event, push⟩ | ⟨event, hv, other, he⟩
  · simp only [verdict, judge, missing]
    exact .inr ⟨rfl, .idle idle⟩
  · simp only [verdict, judge, ping]
    exact .inr ⟨rfl, .idle idle⟩
  · simp only [verdict, judge, push, judgePush]
    split
    · next long => exact .inr ⟨rfl, .tooLong event long⟩
    · next short =>
      have short := Nat.le_of_not_lt short
      cases decoded : Push.ofBytes request.body with
      | error e => exact .inr ⟨rfl, .unreadable event short decoded⟩
      | ok push =>
        have body : Carries server request push := ⟨short, decoded⟩
        simp only [bind, Procedure.question, Procedure.andThen, Procedure.run]
        cases known : (look (addressOf server push) store).1 with
        | error cause => exact .inr ⟨rfl, .unknown event body known⟩
        | ok project =>
          rcases judgeSigned_cases server answer notification event body known with
            ⟨accepts, accepted⟩ | refused
          · exact .inl ⟨push, project, accepts, accepted⟩
          · exact .inr refused
  · simp only [verdict, judge, he]
    exact .inr ⟨rfl, .unsupported hv other⟩

end BuildHook.Webhook
