import BuildHook.Dispatch.Course
import BuildHook.Service.Running

/-!
# The life of the service

Requests arrive, the project store changes and the builds go on, in any order. A life keeps, beside
the store and the pool of builds, how each request was answered.
-/

namespace BuildHook.Service

/-- Something that happens to the service. Only a request can dispatch a build. -/
inductive Happening (σ τ : Type) where
  | request (clock : Clock) (request : Http.Request)
  | store (f : σ → σ)
  | move (move : Dispatch.Move τ) (quiet : move.builds = [])

/-- What is outside the service: who looks projects up, and what answers the builds. -/
structure World (σ τ : Type) where
  look : ProjectAddress → σ → Except ResolveError ProjectRecord × σ
  surroundings : Dispatch.Surroundings τ

/-- What has become of the project store and the builds, and how the requests were answered. -/
structure Life (σ τ : Type) where
  store : σ
  course : Dispatch.Course τ
  responses : List Http.Response

namespace Life

variable {σ τ : Type}

/-- A service to which nothing has happened. -/
def create (config : Config) (store : σ) (state : τ) : Life σ τ :=
  ⟨store, .create config.build.maxConcurrentBuilds state, []⟩

/-- The life after one more happening. -/
def after (config : Config) (world : World σ τ) (life : Life σ τ) : Happening σ τ → Life σ τ
  | .request clock request =>
    let service : Running σ := ⟨life.store, life.course.pool⟩
    let (response, service) := service.handle config world.look clock request
    { store := service.store
      course := { life.course with pool := service.pool }
      responses := life.responses ++ [response] }
  | .store f => { life with store := f life.store }
  | .move move _ =>
    { life with course := life.course.after (.ofConfig config) world.surroundings move }

/-- The life after a sequence of happenings. -/
def run (config : Config) (world : World σ τ) (life : Life σ τ)
    (happenings : List (Happening σ τ)) : Life σ τ :=
  happenings.foldl (after config world) life

end Life

end BuildHook.Service
