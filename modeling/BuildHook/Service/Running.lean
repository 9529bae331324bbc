import BuildHook.Build.Settings
import BuildHook.Dispatch.Pool
import BuildHook.Service.Router

/-!
# The running service

A running service has a pool of builds and asks a project store, which may remember what it was
asked. A request that is accepted adds one build to the pool before it is answered.
-/

namespace BuildHook.Service

/-- The state of a running service: of the project store, and of the builds. -/
structure Running (σ : Type) where
  store : σ
  pool : Dispatch.Pool

/-- What the clock shows when a request arrives. -/
structure Clock where
  uptimeSeconds : Nat
  startedAt : String

namespace Running

variable {σ : Type}

/-- What the service tells about itself. -/
def figures (service : Running σ) (clock : Clock) : Figures :=
  ⟨service.pool.active, clock.uptimeSeconds, clock.startedAt⟩

/-- Dispatches the build of a reaction, if there is one. -/
def dispatch (service : Running σ) (config : Config) (reaction : Reaction) : Running σ :=
  match reaction.build? with
  | some (push, project) =>
      { service with pool := service.pool.dispatch (.ofConfig config) push project }
  | none => service

/-- Answers a request. -/
def handle (config : Config)
    (look : ProjectAddress → σ → Except ResolveError ProjectRecord × σ)
    (service : Running σ) (clock : Clock) (request : Http.Request) : Http.Response × Running σ :=
  let (reaction, store) := (react config (service.figures clock) request).run look service.store
  (reaction.response, { service with store }.dispatch config reaction)

end Running

end BuildHook.Service
