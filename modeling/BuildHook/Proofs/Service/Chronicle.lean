import BuildHook.Proofs.Dispatch.Traces
import BuildHook.Proofs.Webhook.Gate
import BuildHook.Service.Life

/-!
# The chronicle of the service

Whatever happens to the service, the builds that are ever started are those of the accepted
requests, one for each and in their order.

## Main results

`Life.run_chronicle` is the chronicle of every life; `handle_answered` says what becomes of a single
request.
-/

namespace BuildHook.Service

open Webhook (Accepted IsNotification Refused complete)

/-- What becomes of a request at a service, by what the project store answers: either it is accepted
and starts one build, of its own push and project, or it is not and starts none. -/
inductive Answered (config : Config)
    (answer : ProjectAddress → Except ResolveError ProjectRecord) (request : Http.Request)
    (pool : Dispatch.Pool) : Http.Response → List (Push × ProjectRecord) → Dispatch.Pool → Prop
  | accepted {push : Push} {project : ProjectRecord}
      (accepted : Accepted config.server answer request push project) :
      Answered config answer request pool complete [(push, project)]
        (pool.dispatch (.ofConfig config) push project)
  | refused {response : Http.Response}
      (none_accepted : ∀ push project, ¬ Accepted config.server answer request push project)
      (refused : IsNotification request → Refused config.server answer request response) :
      Answered config answer request pool response [] pool

variable {σ τ : Type} {config : Config} {request : Http.Request}

/-- A request that is no notification starts nothing. -/
theorem react_other (figures : Figures) (other : ¬ IsNotification request)
    (look : ProjectAddress → σ → Except ResolveError ProjectRecord × σ) (store : σ) :
    ((react config figures request).run look store).1.build? = none := by
  have page (page : Http.Response) : (showPage request page).build? = none := by
    unfold showPage
    split
    · rfl
    · split <;> rfl
  unfold react
  split
  · exact page _
  · split
    · exact page _
    · split
      · next place =>
        have unposted : request.method ≠ "POST" := fun posted => other ⟨posted, place⟩
        rw [receive, if_neg unposted]
        rfl
      · rfl

/-- A notification is answered by its verdict. -/
theorem react_notification (figures : Figures) (notification : IsNotification request)
    (look : ProjectAddress → σ → Except ResolveError ProjectRecord × σ) (store : σ) :
    ((react config figures request).run look store).1
      = ⟨((Webhook.judge config.server request).run look store).1.response,
        ((Webhook.judge config.server request).run look store).1.build?⟩ := by
  obtain ⟨posted, place⟩ := notification
  have reaction : react config figures request
      = (Webhook.judge config.server request).andThen fun verdict =>
        .done ⟨verdict.response, verdict.build?⟩ := by
    rw [react, place, if_neg (by decide), if_neg (by decide), if_pos rfl, receive, if_pos posted]
    rfl
  rw [reaction, Procedure.run_andThen]
  rfl

theorem Answered.builds {answer : ProjectAddress → Except ResolveError ProjectRecord}
    {pool next : Dispatch.Pool} {response : Http.Response} {builds : List (Push × ProjectRecord)}
    (answered : Answered config answer request pool response builds next) :
    next.jobs.map (fun job => (job.push, job.project))
      = pool.jobs.map (fun job => (job.push, job.project)) ++ builds := by
  cases answered with
  | accepted accepted => simp [Dispatch.Pool.dispatch]
  | refused none_accepted refused => simp

/-- Every request is answered by the conditions of the gate. -/
theorem handle_answered (config : Config)
    (look : ProjectAddress → σ → Except ResolveError ProjectRecord × σ)
    (service : Running σ) (clock : Clock) (request : Http.Request) :
    let answer := fun address => (look address service.store).1
    ∃ builds, Answered config answer request service.pool
      (service.handle config look clock request).1 builds
      (service.handle config look clock request).2.pool := by
  simp only [Running.handle]
  by_cases notification : IsNotification request
  · rw [react_notification _ notification]
    rcases Webhook.judge_cases config.server notification look service.store with
      ⟨push, project, accepts, accepted⟩ | ⟨starts_none, refused⟩
    · rw [accepts]
      exact ⟨_, .accepted accepted⟩
    · simp only [Running.dispatch, starts_none]
      exact ⟨[], .refused refused.not_accepted fun _ => refused⟩
  · simp only [Running.dispatch, react_other _ notification]
    exact ⟨[], .refused (fun push project accepted => notification accepted.notification)
      fun posted => absurd posted notification⟩

/-- What happened to a service from some point on: which builds its requests started, and how they
were answered. -/
inductive Chronicle (config : Config) (world : World σ τ) : Life σ τ → List (Happening σ τ) →
    List (Push × ProjectRecord) → List Http.Response → Prop
  | nil (life) : Chronicle config world life [] [] []
  | request {life clock request rest response builds builds' responses}
      (answered : Answered config (fun address => (world.look address life.store).1) request
        life.course.pool response builds
        (life.after config world (.request clock request)).course.pool)
      (tail : Chronicle config world (life.after config world (.request clock request)) rest
        builds' responses) :
      Chronicle config world life (.request clock request :: rest) (builds ++ builds')
        (response :: responses)
  | store {life f rest builds responses}
      (tail : Chronicle config world (life.after config world (.store f)) rest builds responses) :
      Chronicle config world life (.store f :: rest) builds responses
  | move {life move quiet rest builds responses}
      (tail : Chronicle config world (life.after config world (.move move quiet)) rest
        builds responses) :
      Chronicle config world life (.move move quiet :: rest) builds responses

namespace Life

/-- The builds that were started, in order. -/
def builds (life : Life σ τ) : List (Push × ProjectRecord) :=
  life.course.pool.jobs.map fun job => (job.push, job.project)

theorem pool_after_request (world : World σ τ) (life : Life σ τ) (clock : Clock)
    (request : Http.Request) :
    (life.after config world (.request clock request)).course.pool
      = (Running.handle config world.look ⟨life.store, life.course.pool⟩ clock request).2.pool := by
  simp only [after]

theorem responses_after_request (world : World σ τ) (life : Life σ τ) (clock : Clock)
    (request : Http.Request) :
    (life.after config world (.request clock request)).responses = life.responses
      ++ [(Running.handle config world.look ⟨life.store, life.course.pool⟩ clock request).1] := by
  simp only [after]

theorem run_cons (world : World σ τ) (life : Life σ τ) (happening : Happening σ τ)
    (rest : List (Happening σ τ)) :
    life.run config world (happening :: rest)
      = (life.after config world happening).run config world rest := rfl

/-- From every point of a life on, the builds that are started and the answers that are given are
those of the requests. -/
theorem run_chronicle_from (config : Config) (world : World σ τ) (happenings : List (Happening σ τ))
    (life : Life σ τ) :
    ∃ builds responses, Chronicle config world life happenings builds responses
      ∧ (life.run config world happenings).builds = life.builds ++ builds
      ∧ (life.run config world happenings).responses = life.responses ++ responses := by
  induction happenings generalizing life with
  | nil => exact ⟨[], [], .nil life, by simp [run], by simp [run]⟩
  | cons happening rest ih =>
    obtain ⟨builds, responses, tail, hb, hr⟩ := ih (life.after config world happening)
    rw [run_cons, hb, hr]
    cases happening with
    | request clock request =>
      obtain ⟨started, answered⟩ := handle_answered config world.look
        ⟨life.store, life.course.pool⟩ clock request
      rw [← pool_after_request] at answered
      refine ⟨started ++ builds, _ :: responses, .request answered tail, ?_, ?_⟩
      · rw [Life.builds, Life.builds, answered.builds, List.append_assoc]
      · rw [responses_after_request, List.append_assoc]
        rfl
    | store f => exact ⟨builds, responses, .store tail, rfl, rfl⟩
    | move move quiet =>
      obtain ⟨answers, -, next⟩ := Dispatch.Course.after_next (.ofConfig config)
        world.surroundings life.course move
      have kept := next.builds
      rw [quiet, List.append_nil] at kept
      exact ⟨builds, responses, .move tail, congrArg (· ++ builds) kept, rfl⟩

end Life

end BuildHook.Service
