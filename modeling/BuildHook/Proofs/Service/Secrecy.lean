import BuildHook.Proofs.Build.Reports
import BuildHook.Proofs.Dispatch.Veiled
import BuildHook.Proofs.Git.Options
import BuildHook.Proofs.Push.RoundTrip
import BuildHook.Proofs.Service.Responses
import BuildHook.Proofs.Service.Unsigned
import BuildHook.Proofs.Signature.Verification

/-!
# Secrecy

The secrets of the projects and the texts of their keys show nowhere: neither in a response nor in a
report, in a git call, or in what a sandbox is told beside the key itself. Two services that differ
in these texts only cannot be told apart from outside, as long as the same signatures are found
right.

## Main results

`Life.run_secret` is about any two lives of two such services.
-/

namespace BuildHook

namespace Build

/-- The veil that hides the texts of keys: of a staged key only its place is left, and nothing of
what is bound to `sshKey`. -/
def keyVeil : Veil where
  content _ := ""
  staged key := { key with content := "" }
  value name value := if name = "sshKey" then .null else value

/-- The sandbox call that a request comes to, without the key. -/
def Request.sandboxCall? : Request → Option Request
  | .openSandbox dest => some (.openSandbox dest)
  | .bind name value => some (.bind name (if name = "sshKey" then .null else value))
  | .evaluate source => some (.evaluate source)
  | .load path => some (.load path)
  | _ => none

/-- The sandbox calls in a history, without the key. -/
def sandboxCallsOf (h : List Exchange) : List Request :=
  h.filterMap fun x => x.question.sandboxCall?

theorem report_veiled (r : Request) : (r.veiled keyVeil).report? = r.report? := by cases r <;> rfl

theorem gitWork_veiled (r : Request) : (r.veiled keyVeil).gitWork? = r.gitWork? := by
  cases r with
  | clone url dest key => cases key <;> rfl
  | update dest key => cases key <;> rfl
  | _ => rfl

theorem sandboxCall_veiled (r : Request) : (r.veiled keyVeil).sandboxCall? = r.sandboxCall? := by
  cases r with
  | bind name value =>
    by_cases key : name = "sshKey" <;> simp [Request.veiled, Request.sandboxCall?, keyVeil, key]
  | _ => rfl

/-- Projects that are the same but for their secrets are the same under the veil. -/
theorem sameKeys_keyVeil {project project' : ProjectRecord}
    (same : project.SameButSecrets project') : keyVeil.SameKeys project project' where
  file := by
    have keys : project.usableKey.isSome = project'.usableKey.isSome := same.key
    revert keys
    cases project.usableKey <;> cases project'.usableKey <;> intro keys <;>
      first | rfl | cases keys
  bound := rfl

end Build

namespace Service

open Webhook (IsNotification ReportsPush pushOf? addressOf)

variable {σ σ' τ τ' : Type} {config config' : Config}

/-- What the project store answers about the project of a request, if it is asked. -/
def found? (server : ServerSection)
    (look : ProjectAddress → σ → Except ResolveError ProjectRecord × σ) (store : σ)
    (request : Http.Request) : Option (Except ResolveError ProjectRecord) :=
  (pushOf? server request).map fun push => (look (addressOf server push) store).1

theorem settings_same (configs : config.SameButSecrets config') :
    Build.Settings.ofConfig config = .ofConfig config' := by
  rw [Build.Settings.ofConfig, Build.Settings.ofConfig, configs.build, configs.status]

/-- The same builds are dispatched by two reactions that are the same. -/
theorem dispatch_same (configs : config.SameButSecrets config') (service : Running σ)
    (service' : Running σ') (pools : service.pool.Same Build.keyVeil service'.pool)
    {reaction reaction' : Reaction} (same : reaction.Same reaction') :
    (service.dispatch config reaction).pool.Same Build.keyVeil
      (service'.dispatch config' reaction').pool := by
  have builds := same.build
  unfold Running.dispatch
  revert builds
  cases reaction.build? <;> cases reaction'.build? <;> intro builds <;> cases builds
  · exact pools
  · next started started' both =>
    obtain ⟨push, project⟩ := started
    obtain ⟨push', project'⟩ := started'
    obtain ⟨rfl, secrets⟩ := both
    rw [settings_same configs]
    exact pools.dispatch (Build.sameKeys_keyVeil secrets) _ push

/-- Two services with the same builds under the veil answer two requests the same and start the same
build, if the project stores answer the same and the same signature is found right. -/
theorem handle_same (configs : config.SameButSecrets config')
    {look : ProjectAddress → σ → Except ResolveError ProjectRecord × σ}
    {look' : ProjectAddress → σ' → Except ResolveError ProjectRecord × σ'}
    (service : Running σ) (service' : Running σ')
    (pools : service.pool.Same Build.keyVeil service'.pool) (clock : Clock)
    {request request' : Http.Request} (unsigned : request.unsigned = request'.unsigned)
    (found : Option.Rel SameFound (found? config.server look service.store request)
      (found? config'.server look' service'.store request'))
    (checks : (found? config.server look service.store request).bind (signed? request)
      = (found? config'.server look' service'.store request').bind (signed? request')) :
    (service.handle config look clock request).1 = (service'.handle config' look' clock request').1
    ∧ (service.handle config look clock request).2.pool.Same Build.keyVeil
      (service'.handle config' look' clock request').2.pool := by
  have figures : service.figures clock = service'.figures clock := by
    rw [Running.figures, Running.figures, pools.active]
  have alike := react_alike unsigned config (service.figures clock)
  rw [← configs.server] at found checks
  simp only [Running.handle, ← react_config configs, ← figures]
  generalize react config (service.figures clock) request = first at alike
  generalize react config (service.figures clock) request' = second at alike
  cases alike with
  | answered response => exact ⟨rfl, pools⟩
  | looksUp push reports reports' settles settles' =>
    rw [found?, reports, found?, reports'] at found checks
    cases found with
    | some same =>
      have settled := settle_same push same checks
      simp only [Procedure.run, settles, settles']
      refine ⟨settled.response, dispatch_same configs _ _ ?_ settled⟩
      exact pools

/-- Two happenings that are the same for the service, but for the signatures of requests. What
becomes of the project stores and of the surroundings of builds is left open. -/
inductive Happening.Same : Happening σ τ → Happening σ' τ' → Prop
  | request (clock : Clock) {request request' : Http.Request}
      (unsigned : request.unsigned = request'.unsigned) :
      Same (.request clock request) (.request clock request')
  | store (f : σ → σ) (f' : σ' → σ') : Same (.store f) (.store f')
  | move {move : Dispatch.Move τ} {move' : Dispatch.Move τ'} (quiet : move.builds = [])
      (quiet' : move'.builds = []) (same : move.Same move') :
      Same (.move move quiet) (.move move' quiet')

namespace Life

/-- What the project store answers in a happening. -/
def found? (config : Config) (world : World σ τ) (life : Life σ τ) :
    Happening σ τ → Option (Except ResolveError ProjectRecord)
  | .request _ request => Service.found? config.server world.look life.store request
  | _ => none

/-- Whether the signature is right that is checked in a happening. -/
def signed? (config : Config) (world : World σ τ) (life : Life σ τ) : Happening σ τ → Option Bool
  | .request clock request =>
    (life.found? config world (.request clock request)).bind (Service.signed? request)
  | _ => none

/-- What a build asks of its surroundings in a happening. -/
def consulted? (world : World σ τ) (life : Life σ τ) :
    Happening σ τ → Option Dispatch.Consultation
  | .move move _ => life.course.consulted? world.surroundings move
  | _ => none

/-- What is noted of each happening, at the time of it. -/
def noted {α : Type} (config : Config) (world : World σ τ)
    (note : Life σ τ → Happening σ τ → α) : Life σ τ → List (Happening σ τ) → List α
  | _, [] => []
  | life, happening :: rest =>
    note life happening :: noted config world note (life.after config world happening) rest

/-- Two lives that are the same but for secrets and keys, seen from outside. -/
structure Indistinguishable (life : Life σ τ) (life' : Life σ' τ') : Prop where
  responses : life.responses = life'.responses
  reports (build : Nat) :
    Build.reportsOf (life.course.calls build) = Build.reportsOf (life'.course.calls build)
  git (build : Nat) :
    Build.gitWorkOf (life.course.calls build) = Build.gitWorkOf (life'.course.calls build)
  sandbox (build : Nat) :
    Build.sandboxCallsOf (life.course.calls build)
      = Build.sandboxCallsOf (life'.course.calls build)
  exchanges : life.course.log.map Build.keyVeil.entry = life'.course.log.map Build.keyVeil.entry

/-- Two lives that are the same under the veil. -/
structure Same (life : Life σ τ) (life' : Life σ' τ') : Prop where
  course : life.course.Same Build.keyVeil life'.course
  responses : life.responses = life'.responses

/-- Only the pool is changed by a request. -/
theorem course_after_request (world : World σ τ) (life : Life σ τ) (clock : Clock)
    (request : Http.Request) :
    (life.after config world (.request clock request)).course
      = { life.course with
          pool := (Running.handle config world.look ⟨life.store, life.course.pool⟩ clock
            request).2.pool } := by
  simp only [after]

/-- What happens to both keeps two lives the same, if they find the same projects and the same
signatures right, and their builds are answered the same. -/
theorem Same.after (configs : config.SameButSecrets config') {world : World σ τ}
    {world' : World σ' τ'} {life : Life σ τ} {life' : Life σ' τ'} (same : life.Same life')
    {happening : Happening σ τ} {happening' : Happening σ' τ'}
    (happenings : happening.Same happening')
    (found : Option.Rel SameFound (life.found? config world happening)
      (life'.found? config' world' happening'))
    (checks : life.signed? config world happening = life'.signed? config' world' happening')
    (answers : Build.keyVeil.SameAnswer (life.consulted? world happening)
      (life'.consulted? world' happening')) :
    (life.after config world happening).Same (life'.after config' world' happening') := by
  cases happenings with
  | store f f' => exact { same with }
  | move quiet quiet' moves =>
    simp only [Life.after, settings_same configs]
    exact ⟨same.course.after _ _ _ moves answers, same.responses⟩
  | @request clock request request' unsigned =>
    obtain ⟨response, pool⟩ := handle_same configs ⟨life.store, life.course.pool⟩
      ⟨life'.store, life'.course.pool⟩ same.course.pool clock unsigned found checks
    constructor
    · rw [course_after_request, course_after_request]
      exact same.course.withPool pool
    · rw [responses_after_request, responses_after_request, same.responses, response]

/-- What is noted of the same happenings is related if it always is. -/
theorem forall_noted {α β : Type} {R : α → β → Prop} {world : World σ τ} {world' : World σ' τ'}
    {note : Life σ τ → Happening σ τ → α} {note' : Life σ' τ' → Happening σ' τ' → β}
    (agree : ∀ life life' happening happening', happening.Same happening' →
      R (note life happening) (note' life' happening'))
    {happenings : List (Happening σ τ)} {happenings' : List (Happening σ' τ')}
    (both : List.Forall₂ Happening.Same happenings happenings') (life : Life σ τ)
    (life' : Life σ' τ') :
    List.Forall₂ R (noted config world note life happenings)
      (noted config' world' note' life' happenings') := by
  induction both generalizing life life' with
  | nil => exact .nil
  | cons first rest ih => exact .cons (agree _ _ _ _ first) (ih _ _)

/-- From the same lives on, all that happens to both keeps them the same. -/
theorem Same.run (configs : config.SameButSecrets config') {world : World σ τ}
    {world' : World σ' τ'} {happenings : List (Happening σ τ)}
    {happenings' : List (Happening σ' τ')}
    (both : List.Forall₂ Happening.Same happenings happenings')
    {life : Life σ τ} {life' : Life σ' τ'} (same : life.Same life')
    (found : List.Forall₂ (Option.Rel SameFound)
      (noted config world (found? config world) life happenings)
      (noted config' world' (found? config' world') life' happenings'))
    (checks : noted config world (signed? config world) life happenings
      = noted config' world' (signed? config' world') life' happenings')
    (answers : List.Forall₂ Build.keyVeil.SameAnswer
      (noted config world (consulted? world) life happenings)
      (noted config' world' (consulted? world') life' happenings')) :
    (life.run config world happenings).Same (life'.run config' world' happenings') := by
  -- What is noted later is noted of the later lives, so the notes are split with the happenings.
  induction both generalizing life life' with
  | nil => exact same
  | cons first rest ih =>
    cases found with
    | cons found founds =>
      cases answers with
      | cons answer answers =>
        obtain ⟨check, checks⟩ := List.cons.inj checks
        exact ih (same.after configs first found check answer) founds checks answers

/-- What does not depend on what the veil hides is the same of the calls of two builds. -/
theorem filterMap_calls {β : Type} {life : Life σ τ} {life' : Life σ' τ'}
    (same : life.Same life') {part : Build.Request → Option β}
    (blind : ∀ r : Build.Request, part (r.veiled Build.keyVeil) = part r) (build : Nat) :
    ((life.course.calls build).filterMap fun x => part x.question)
      = (life'.course.calls build).filterMap fun x => part x.question := by
  have entries (log : List (Nat × Build.Exchange)) :
      ((log.filter fun entry => entry.1 == build).map (·.2)).filterMap (fun x => part x.question)
        = (((log.map Build.keyVeil.entry).filter fun entry => entry.1 == build).map
          (·.2)).filterMap fun x => part x.question := by
    rw [List.filter_map, List.map_map, List.filterMap_map, List.filterMap_map]
    refine List.filterMap_congr fun entry _ => ?_
    exact (blind entry.2.question).symm
  rw [Dispatch.Course.calls, Dispatch.Course.calls, entries, same.course.log, ← entries]

theorem Same.indistinguishable {life : Life σ τ} {life' : Life σ' τ'} (same : life.Same life') :
    life.Indistinguishable life' where
  responses := same.responses
  reports := filterMap_calls same Build.report_veiled
  git := filterMap_calls same Build.gitWork_veiled
  sandbox := filterMap_calls same Build.sandboxCall_veiled
  exchanges := same.course.log

/-- Two services whose projects differ in secrets and keys only cannot be told apart from outside
after the same happenings, if the same signatures are found right and what their builds ask the same
is answered the same. -/
theorem run_secret (configs : config.SameButSecrets config') (world : World σ τ)
    (world' : World σ' τ') (store : σ) (store' : σ') (state : τ) (state' : τ')
    {happenings : List (Happening σ τ)} {happenings' : List (Happening σ' τ')}
    (both : List.Forall₂ Happening.Same happenings happenings')
    (found : List.Forall₂ (Option.Rel SameFound)
      (noted config world (found? config world) (create config store state) happenings)
      (noted config' world' (found? config' world') (create config' store' state') happenings'))
    (checks : noted config world (signed? config world) (create config store state) happenings
      = noted config' world' (signed? config' world') (create config' store' state') happenings')
    (answers : List.Forall₂ Build.keyVeil.SameAnswer
      (noted config world (consulted? world) (create config store state) happenings)
      (noted config' world' (consulted? world') (create config' store' state') happenings')) :
    ((create config store state).run config world happenings).Indistinguishable
      ((create config' store' state').run config' world' happenings') := by
  have start : (create config store state).Same (create config' store' state') := by
    refine ⟨⟨⟨?_, rfl, rfl, rfl, .nil⟩, rfl, rfl⟩, rfl⟩
    exact congrArg (fun builds => max 1 builds.maxConcurrentBuilds) configs.build
  exact (start.run configs both found checks answers).indistinguishable

end Life

namespace Sample

/-- The project of the notification, with this secret and this key. -/
def entry (secret key : String) : ProjectEntry := ⟨"a/b", defaultNamespace, secret, some key, none⟩

/-- A configuration in which there is this project, and room for the body of the notification. -/
def configured (secret key : String) : Config :=
  { Config.standard with
    server := { ServerSection.standard with maxBodyBytes := body.length }
    projects := [entry secret key] }

/-- Grants every request, whatever the key is. -/
def grant : (r : Build.Request) → Build.Reply r
  | .stageKey content => .ok ⟨"/tmp/key", content⟩
  | .discardKey _ => ()
  | .publish _ => .ok ()
  | .enter _ => ()
  | .leave _ => ()
  | .makeDirectories _ => .ok ()
  | .clone .. => .ok ()
  | .update .. => .ok ()
  | .checkout .. => .ok ()
  | .readText _ => .ok "definition"
  | .openSandbox _ => ()
  | .bind .. => .ok ()
  | .evaluate _ => .ok ()
  | .load _ => .ok ()

/-- A world in which the configured projects are known and every request is granted. -/
def granting (config : Config) : World Unit Unit where
  look address store := ((ProjectStore.ofProjects config.projects).resolve address, store)
  surroundings _ r state := (some (grant r), state)

/-- A signed notification, and then the whole build of it. -/
def delivery (secret : String) : List (Happening Unit Unit) :=
  .request clock (notification secret) :: .move (.start 0) rfl
    :: List.replicate 17 (.move (.step 0) rfl)

theorem unsigned_notification (secret secret' : String) :
    (notification secret).unsigned = (notification secret').unsigned := by
  simp [Http.Request.unsigned, notification, Webhook.signatureHeader, List.filter_cons]

theorem body_notification (secret : String) : (notification secret).body = body := by
  simp only [notification]

theorem pushOf_notification (secret key : String) :
    pushOf? (configured secret key).server (notification secret)
      = some (Build.Sample.pushTo "a/b") := by
  have target : (notification secret).target = "/webhook" := rfl
  have place : (notification secret).path = "/webhook" := by
    rw [Http.Request.path, Http.Request.resource, target]
    decide +kernel
  have event : ReportsPush (notification secret) := by
    simp [ReportsPush, Http.Request.header?, notification]
  have whole : IsNotification (notification secret) ∧ ReportsPush (notification secret)
      ∧ (notification secret).body.length ≤ (configured secret key).server.maxBodyBytes :=
    ⟨⟨rfl, place⟩, event, body_notification secret ▸ Nat.le_refl body.length⟩
  rw [pushOf?, if_pos whole, body_notification, body, Push.ofBytes_toJson]
  rfl

theorem resolve_entry (entry : ProjectEntry) :
    (ProjectStore.ofProjects [entry]).resolve entry.address = .ok entry.record := by
  simp [ProjectStore.ofProjects, ProjectStore.insert, ProjectStore.resolve, ProjectStore.get?]

/-- The project of the notification is known. -/
theorem found_notification (secret key : String) :
    found? (configured secret key).server (granting (configured secret key)).look ()
      (notification secret) = some (.ok (entry secret key).record) := by
  have address : addressOf (configured secret key).server (Build.Sample.pushTo "a/b")
      = (entry secret key).address := rfl
  have looked (address : ProjectAddress) : (granting (configured secret key)).look address ()
      = ((ProjectStore.ofProjects [entry secret key]).resolve address, ()) := rfl
  rw [found?, pushOf_notification, Option.map_some, address, looked, resolve_entry]

/-- The signature of the notification is right. -/
theorem signed_notification {secret : String} (given : secret ≠ "") (key : String) :
    signed? (notification secret) (.ok (entry secret key).record) = some true := by
  have header : (notification secret).header Webhook.signatureHeader
      = Utf8.encode (Signature.sign (Utf8.encode secret) body) := by
    simp [Http.Request.header, Http.Request.header?, notification, Webhook.signatureHeader,
      Webhook.lowered_headers_ne]
  have secret_eq : (entry secret key).record.secret = secret := rfl
  rw [signed?, secret_eq, if_neg given, header, body_notification, Signature.verify_sign]

/-- Only the one signature is checked in a delivery. -/
theorem checks_delivery {secret : String} (given : secret ≠ "") (key : String) :
    Life.noted (configured secret key) (granting (configured secret key))
      (Life.signed? (configured secret key) (granting (configured secret key)))
      (.create (configured secret key) () ()) (delivery secret)
      = some true :: List.replicate 18 none := by
  have first : Life.signed? (configured secret key) (granting (configured secret key))
      (.create (configured secret key) () ()) (.request clock (notification secret))
        = some true := by
    rw [Life.signed?, Life.found?]
    exact (congrArg (Option.bind · _) (found_notification secret key)).trans
      (signed_notification given key)
  exact congrArg₂ List.cons first rfl

theorem hasSshKey_entry (secret : String) {key : String} (usable : key ≠ "") :
    (entry secret key).record.hasSshKey = true := by
  simp [ProjectRecord.hasSshKey, ProjectRecord.usableKey, ProjectEntry.record, entry, usable]

theorem configured_same {secret secret' key key' : String} (given : secret ≠ "")
    (given' : secret' ≠ "") (usable : key ≠ "") (usable' : key' ≠ "") :
    (configured secret key).SameButSecrets (configured secret' key') where
  server := rfl
  build := rfl
  status := rfl
  projects := .cons ⟨rfl, rfl, iff_of_false given given',
    (hasSshKey_entry secret usable).trans (hasSshKey_entry secret' usable').symm⟩ .nil

theorem delivery_same (secret secret' : String) :
    List.Forall₂ Happening.Same (delivery secret) (delivery secret') :=
  .cons (.request clock (unsigned_notification secret secret'))
    (.cons (.move rfl rfl (.start 0)) (List.forall₂_same.mpr fun happening mem => by
      rw [List.eq_of_mem_replicate mem]
      exact .move rfl rfl (.step 0)))

/-- What is granted under the veil is granted to what is asked under it. -/
theorem exchange_grant (r : Build.Request) :
    Build.keyVeil.exchange ⟨r, grant r⟩
      = ⟨r.veiled Build.keyVeil, grant (r.veiled Build.keyVeil)⟩ := by
  cases r <;> rfl

/-- What is asked of the surroundings is granted. -/
theorem reply_of_consulted {config : Config} {life : Life Unit Unit}
    {happening : Happening Unit Unit} {c : Dispatch.Consultation}
    (consulted : life.consulted? (granting config) happening = some c) :
    c.reply = some (grant c.request) := by
  cases happening with
  | request clock request => cases consulted
  | store f => cases consulted
  | move move quiet =>
    cases move with
    | step build =>
      simp only [Life.consulted?, Dispatch.Course.consulted?] at consulted
      split at consulted
      · next push project rest found =>
        cases rest with
        | done state => cases consulted
        | ask r next =>
          simp only [Dispatch.consult] at consulted
          split at consulted
          · cases consulted
          · cases consulted
            rfl
      · cases consulted
    | _ => cases consulted

theorem answers_granted {config config' : Config} (life life' : Life Unit Unit)
    (happening happening' : Happening Unit Unit) :
    Build.keyVeil.SameAnswer (life.consulted? (granting config) happening)
      (life'.consulted? (granting config') happening') := by
  cases asked : life.consulted? (granting config) happening with
  | none => trivial
  | some c =>
    cases asked' : life'.consulted? (granting config') happening' with
    | none => trivial
    | some c' =>
      intro same
      rw [reply_of_consulted asked, reply_of_consulted asked', Option.map_some, Option.map_some,
        exchange_grant, exchange_grant, same]

/-- The same projects are found but for secrets and keys. -/
theorem found_granted {config config' : Config} (configs : config.SameButSecrets config')
    (life life' : Life Unit Unit) {happening happening' : Happening Unit Unit}
    (same : happening.Same happening') :
    Option.Rel SameFound (life.found? config (granting config) happening)
      (life'.found? config' (granting config') happening') := by
  cases same with
  | request clock unsigned =>
    simp only [Life.found?, found?, pushOf_eq unsigned, configs.server]
    cases pushOf? config'.server _ with
    | none => exact .none
    | some push => exact .some (ProjectStore.resolve_same configs _)
  | _ => exact .none

end Sample

/-- Two services with different secrets and keys, each of which gets a notification that is signed
with its own secret and makes the whole build of it. -/
theorem Life.run_secret_delivery :
    let config := Sample.configured "s" "K"
    let config' := Sample.configured "t" "L"
    ((create config () ()).run config (Sample.granting config)
      (Sample.delivery "s")).Indistinguishable
      ((create config' () ()).run config' (Sample.granting config') (Sample.delivery "t")) := by
  have configs : (Sample.configured "s" "K").SameButSecrets (Sample.configured "t" "L") :=
    Sample.configured_same (by decide) (by decide) (by decide) (by decide)
  refine run_secret configs _ _ () () () () (Sample.delivery_same "s" "t") ?_ ?_ ?_
  · exact forall_noted (fun life life' _ _ same => Sample.found_granted configs life life' same)
      (Sample.delivery_same "s" "t") _ _
  · rw [Sample.checks_delivery (by decide), Sample.checks_delivery (by decide)]
  · exact forall_noted (fun life life' _ _ _ => Sample.answers_granted life life' _ _)
      (Sample.delivery_same "s" "t") _ _

end Service

end BuildHook
