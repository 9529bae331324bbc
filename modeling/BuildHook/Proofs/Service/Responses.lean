import BuildHook.Proofs.Service.Chronicle
import BuildHook.Proofs.Build.Sample

/-!
# Responses and builds

How the service answers, and what it hands over to be built, does not depend on how builds go. Two
services that are asked the same, and whose stores change in the same way, answer the same, whatever
steps of their builds fail, are held back or have been made in between; only the number of active
builds that their pages show can differ.

## Main results

`reaction_active` is about a single request, `Life.run_responses` about any two lives.
-/

namespace BuildHook.Service

open Dispatch (Course Surroundings)
open Webhook (IsNotification)

/-- Two values that are the same but for a number of active builds in them. -/
inductive CountsApart : Json → Json → Prop
  | count {name : String} (shown : name ∈ ["active_builds", "active"]) (n n' : Nat)
      (before after : List (String × Json)) :
      CountsApart (.object (before ++ (name, .int n) :: after))
        (.object (before ++ (name, .int n') :: after))
  | inside {value value' : Json} (name : String) (before after : List (String × Json))
      (apart : CountsApart value value') :
      CountsApart (.object (before ++ (name, value) :: after))
        (.object (before ++ (name, value') :: after))

/-- Two responses that are the same but for a number of active builds in them. -/
inductive SameButCount : Http.Response → Http.Response → Prop
  | same (response : Http.Response) : SameButCount response response
  | counts {page page' : Json} (apart : CountsApart page page') (status : Nat) :
      SameButCount (.json status page) (.json status page')

/-- What two services have in common that are asked the same: only their pages can differ, and only
in the number of active builds. -/
structure Agree (request : Http.Request) (first second : Http.Response) : Prop where
  pages : SameButCount first second
  elsewhere : request.path ∉ ["/", "/status"] → first = second

/-- Whether two services agree on all requests, each of which both of them answer. -/
inductive AgreeOn : List Http.Request → List Http.Response → List Http.Response → Prop
  | nil : AgreeOn [] [] []
  | cons {request requests response response' responses responses'}
      (agree : Agree request response response') (rest : AgreeOn requests responses responses') :
      AgreeOn (request :: requests) (response :: responses) (response' :: responses')

/-- What the service tells about itself at some time, when so many builds are active. -/
def Clock.figures (clock : Clock) (active : Nat) : Figures :=
  ⟨active, clock.uptimeSeconds, clock.startedAt⟩

theorem statusPage_apart (config : Config) (clock : Clock) (active active' : Nat) :
    SameButCount (statusPage config (clock.figures active))
      (statusPage config (clock.figures active')) :=
  .counts (.inside "builds" [_] [] (.count (by decide) active active' [] [_])) 200

theorem healthPage_apart (request : Http.Request) (clock : Clock) (active active' : Nat) :
    SameButCount (healthPage (clock.figures active) request)
      (healthPage (clock.figures active') request) := by
  unfold healthPage
  split
  · exact .counts (.count (by decide) active active' [] _) 200
  · exact .same _

/-- A page is shown in the same way, whatever stands in it. -/
theorem showPage_apart (request : Http.Request) {page page' : Http.Response}
    (apart : SameButCount page page') :
    (showPage request page).build? = (showPage request page').build?
    ∧ SameButCount (showPage request page).response (showPage request page').response := by
  unfold showPage
  split
  · exact ⟨rfl, apart⟩
  · split
    · refine ⟨rfl, ?_⟩
      cases apart with
      | same => exact .same _
      | counts => exact .same _
    · exact ⟨rfl, .same _⟩

/-- A request either gets a page, in which the figures may be shown, or is treated regardless of
them. -/
theorem react_cases (config : Config) (request : Http.Request) :
    (∃ page : Figures → Http.Response, request.path ∈ ["/", "/status"]
      ∧ (∀ figures, react config figures request = .done (showPage request (page figures)))
      ∧ ∀ (clock : Clock) (active active' : Nat),
        SameButCount (page (clock.figures active)) (page (clock.figures active')))
    ∨ ∀ figures figures', react config figures request = react config figures' request := by
  by_cases home : request.path = "/"
  · refine .inl ⟨fun figures => healthPage figures request, by simp [home], ?_,
      healthPage_apart request⟩
    intro figures
    rw [react, if_pos home]
    rfl
  · by_cases status : request.path = "/status"
    · refine .inl ⟨statusPage config, by simp [status], ?_, statusPage_apart config⟩
      intro figures
      rw [react, if_neg home, if_pos status]
      rfl
    · right
      intro figures figures'
      rw [react, react, if_neg home, if_neg home, if_neg status, if_neg status]

variable {σ τ τ' : Type} {config : Config}
  {look : ProjectAddress → σ → Except ResolveError ProjectRecord × σ}

/-- The reaction to a request, and what becomes of the store, when so many builds are active. -/
def reaction (config : Config)
    (look : ProjectAddress → σ → Except ResolveError ProjectRecord × σ) (store : σ) (clock : Clock)
    (request : Http.Request) (active : Nat) : Reaction × σ :=
  (react config (clock.figures active) request).run look store

/-- How many builds are active makes no difference to what a request starts, to what the store is
asked, and to any response but a page that shows the number. -/
theorem reaction_active (config : Config)
    (look : ProjectAddress → σ → Except ResolveError ProjectRecord × σ) (store : σ) (clock : Clock)
    (request : Http.Request) (active active' : Nat) :
    let first := reaction config look store clock request active
    let second := reaction config look store clock request active'
    first.1.build? = second.1.build? ∧ first.2 = second.2
      ∧ Agree request first.1.response second.1.response := by
  simp only [reaction]
  rcases react_cases config request with ⟨page, place, shown, apart⟩ | regardless
  · rw [shown, shown]
    obtain ⟨builds, pages⟩ := showPage_apart request (apart clock active active')
    exact ⟨builds, rfl, pages, fun other => absurd place other⟩
  · rw [regardless (clock.figures active) (clock.figures active')]
    exact ⟨rfl, rfl, .same _, fun _ => rfl⟩

/-- What comes to a service from outside its builds. -/
inductive Visit (σ : Type) where
  | request (clock : Clock) (request : Http.Request)
  | store (f : σ → σ)

/-- The visits among what happens to a service. -/
def visitsOf : List (Happening σ τ) → List (Visit σ)
  | [] => []
  | .request clock request :: rest => .request clock request :: visitsOf rest
  | .store f :: rest => .store f :: visitsOf rest
  | .move _ _ :: rest => visitsOf rest

/-- The requests among visits. -/
def requestsOf : List (Visit σ) → List Http.Request
  | [] => []
  | .request _ request :: rest => request :: requestsOf rest
  | .store _ :: rest => requestsOf rest

/-- What visits come to from some state of the store on, with any numbers of builds active: which
builds they start, and how they are answered. -/
inductive Visited (config : Config)
    (look : ProjectAddress → σ → Except ResolveError ProjectRecord × σ) :
    σ → List (Visit σ) → List (Push × ProjectRecord) → List Http.Response → Prop
  | nil (store) : Visited config look store [] [] []
  | request {store clock request rest builds responses} (active : Nat)
      (tail : Visited config look (reaction config look store clock request active).2 rest builds
        responses) :
      Visited config look store (.request clock request :: rest)
        ((reaction config look store clock request active).1.build?.toList ++ builds)
        ((reaction config look store clock request active).1.response :: responses)
  | store {store f rest builds responses}
      (tail : Visited config look (f store) rest builds responses) :
      Visited config look store (.store f :: rest) builds responses

/-- The same visits start the same builds and are answered the same. -/
theorem Visited.agree {store : σ} {visits : List (Visit σ)}
    {builds builds' : List (Push × ProjectRecord)} {responses responses' : List Http.Response}
    (first : Visited config look store visits builds responses)
    (second : Visited config look store visits builds' responses') :
    builds = builds' ∧ AgreeOn (requestsOf visits) responses responses' := by
  induction first generalizing builds' responses' with
  | nil store =>
    cases second
    exact ⟨rfl, .nil⟩
  | @request store clock request rest builds responses active tail ih =>
    cases second with
    | request active' tail' =>
      obtain ⟨started, store, agree⟩ := reaction_active config look store clock request active
        active'
      rw [← store] at tail'
      obtain ⟨same, rest⟩ := ih tail'
      exact ⟨by rw [started, same], .cons agree rest⟩
  | store tail ih =>
    cases second with
    | store tail' => exact ih tail'

theorem dispatch_builds (service : Running σ) (config : Config) (reaction : Reaction) :
    (service.dispatch config reaction).store = service.store
    ∧ (service.dispatch config reaction).pool.jobs.map (fun job => (job.push, job.project))
      = service.pool.jobs.map (fun job => (job.push, job.project)) ++ reaction.build?.toList := by
  unfold Running.dispatch
  cases reaction.build? with
  | none => exact ⟨rfl, (List.append_nil _).symm⟩
  | some build => exact ⟨rfl, List.map_append⟩

namespace Life

/-- A request is answered as its reaction says, and starts its build. -/
theorem after_request (config : Config) (world : World σ τ) (life : Life σ τ) (clock : Clock)
    (request : Http.Request) :
    let result := reaction config world.look life.store clock request life.course.pool.active
    let later := life.after config world (.request clock request)
    later.store = result.2 ∧ later.builds = life.builds ++ result.1.build?.toList
      ∧ later.responses = life.responses ++ [result.1.response] := by
  intro result later
  have handled : Running.handle config world.look ⟨life.store, life.course.pool⟩ clock request
      = (result.1.response, Running.dispatch ⟨result.2, life.course.pool⟩ config result.1) := by
    simp only [Running.handle, Running.figures, result, reaction, Clock.figures]
  obtain ⟨store, builds⟩ := dispatch_builds ⟨result.2, life.course.pool⟩ config result.1
  have kept : later.store = result.2 := by simp only [later, after, handled, store]
  have started : later.builds = life.builds ++ result.1.build?.toList := by
    simp only [later, Life.builds, pool_after_request, handled, builds]
  have answered : later.responses = life.responses ++ [result.1.response] := by
    simp only [later, responses_after_request, handled]
  exact ⟨kept, started, answered⟩

/-- From every point of a life on, its builds and its answers are what the visits come to. -/
theorem run_visited (config : Config) (world : World σ τ) (happenings : List (Happening σ τ))
    (life : Life σ τ) :
    ∃ builds responses,
      Visited config world.look life.store (visitsOf happenings) builds responses
      ∧ (life.run config world happenings).builds = life.builds ++ builds
      ∧ (life.run config world happenings).responses = life.responses ++ responses := by
  induction happenings generalizing life with
  | nil => exact ⟨[], [], .nil _, by simp [run], by simp [run]⟩
  | cons happening rest ih =>
    obtain ⟨builds, responses, tail, hb, hr⟩ := ih (life.after config world happening)
    rw [run_cons, hb, hr]
    cases happening with
    | request clock request =>
      obtain ⟨store, started, answered⟩ := after_request config world life clock request
      rw [store] at tail
      refine ⟨_, _, .request life.course.pool.active tail, ?_, ?_⟩
      · rw [started, List.append_assoc]
      · rw [answered, List.append_assoc]
        rfl
    | store f => exact ⟨builds, responses, .store tail, rfl, rfl⟩
    | move move quiet =>
      obtain ⟨answers, -, next⟩ := Course.after_next (.ofConfig config) world.surroundings
        life.course move
      have kept := next.builds
      rw [quiet, List.append_nil] at kept
      exact ⟨builds, responses, tail, congrArg (· ++ builds) kept, rfl⟩

/-- Two lives with the same visits have the same answers, up to the number of active builds on
pages, and the same builds, in the same order. -/
theorem run_responses (config : Config)
    (look : ProjectAddress → σ → Except ResolveError ProjectRecord × σ) (store : σ)
    (first : Surroundings τ) (second : Surroundings τ') (state : τ) (state' : τ')
    (happenings : List (Happening σ τ)) (happenings' : List (Happening σ τ'))
    (same : visitsOf happenings = visitsOf happenings') :
    let life := (create config store state).run config ⟨look, first⟩ happenings
    let life' := (create config store state').run config ⟨look, second⟩ happenings'
    AgreeOn (requestsOf (visitsOf happenings)) life.responses life'.responses
      ∧ life.builds = life'.builds := by
  obtain ⟨builds, responses, visited, hb, hr⟩ :=
    run_visited config ⟨look, first⟩ happenings (create config store state)
  obtain ⟨builds', responses', visited', hb', hr'⟩ :=
    run_visited config ⟨look, second⟩ happenings' (create config store state')
  rw [← same] at visited'
  obtain ⟨started, answered⟩ := visited.agree visited'
  intro life life'
  rw [hb, hb', hr, hr']
  exact ⟨answered, congrArg _ started⟩

end Life

namespace Sample

/-- What a notification tells. -/
def body : Bytes := Utf8.encode (Build.Sample.pushTo "a/b").toJson.render

/-- A notification that is signed with this secret. -/
def notification (secret : String) : Http.Request where
  method := "POST"
  target := "/webhook"
  headers := [("X-GitHub-Event", Utf8.encode "push"),
    ("X-Hub-Signature-256", Utf8.encode (Signature.sign (Utf8.encode secret) body))]
  body := body

/-- A request for the status page. -/
def statusRequest : Http.Request := ⟨"GET", "/status", [], []⟩

def clock : Clock := ⟨7, "2024-01-01T00:00:00+00:00"⟩

/-- A notification and a request for the status page, around some moves of the build. -/
def around (moves : List (Dispatch.Move Nat)) : List (Happening Nat Nat) :=
  .request clock (notification "s") :: moves.filterMap quiet ++ [.request clock statusRequest]
where
  quiet (move : Dispatch.Move Nat) : Option (Happening Nat Nat) :=
    if h : move.builds = [] then some (.move move h) else none

/-- Surroundings that answer every request of a build. -/
def answering : Surroundings Nat := fun _ r count =>
  let (reply, count) := Build.Sample.answer r count
  (some reply, count)

/-- Surroundings that hold everything back. -/
def holding : Surroundings Nat := fun _ _ count => (none, count)

end Sample

/-- One build runs to its end before the status page is asked for, the other one is held back. -/
theorem Life.run_responses_finished_or_held :
    let look : ProjectAddress → Nat → Except ResolveError ProjectRecord × Nat :=
      fun _ count => (.ok Build.Sample.project, count + 1)
    let finishing := Sample.around (.start 0 :: List.replicate 12 (.step 0))
    let waiting := Sample.around [.start 0, .step 0]
    let life := (create .standard 0 0).run .standard ⟨look, Sample.answering⟩ finishing
    let life' := (create .standard 0 0).run .standard ⟨look, Sample.holding⟩ waiting
    visitsOf finishing = visitsOf waiting
      ∧ AgreeOn [Sample.notification "s", Sample.statusRequest] life.responses life'.responses
      ∧ life.builds = life'.builds := by
  intro look finishing waiting life life'
  have same : visitsOf finishing = visitsOf waiting := by rfl
  exact ⟨same, run_responses .standard look 0 Sample.answering Sample.holding 0 0 finishing waiting
    same⟩

end BuildHook.Service
