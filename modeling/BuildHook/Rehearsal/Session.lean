import BuildHook.Rehearsal.Company
import BuildHook.Service.Running

/-!
# Rehearsed service

The service with stand-ins for everything behind it: requests are answered one after the other, and
the builds that they start go on as far as they can in between.
-/

namespace BuildHook.Rehearsal

/-- Who looks projects up: the configuration, nobody, or someone who always returns one record. Only
lookups by the latter two are written down. -/
inductive Resolver where
  | configured
  | unavailable
  | fixed (record : ProjectRecord)

/-- A running service. -/
structure Session where
  config : Config
  store : ProjectStore
  resolver : Resolver
  flaws : String → List Flaw
  company : Company
  lookups : List ProjectAddress
  answered : List (Http.Response × Nat)

namespace Session

/-- A service that has answered nothing. -/
def create (config : Config) (resolver : Resolver) (flaws : String → List Flaw) (scene : Scene) :
    Session where
  config := config
  store := .ofProjects config.projects
  resolver := resolver
  flaws := flaws
  company := .create config.build.maxConcurrentBuilds scene
  lookups := []
  answered := []

/-- Looks a project up, with the lookups written down so far. -/
def look (session : Session) (address : ProjectAddress) (lookups : List ProjectAddress) :
    Except ResolveError ProjectRecord × List ProjectAddress :=
  match session.resolver with
  | .configured => (session.store.resolve address, lookups)
  | .unavailable => (.error (.unavailable "no answer"), lookups ++ [address])
  | .fixed record => (.ok record, lookups ++ [address])

/-- A clock that stands still. -/
def clock : Service.Clock := ⟨0, ""⟩

/-- Answers a request. The number of active builds is written down with the response. -/
def handle (session : Session) (request : Http.Request) : Session :=
  let service : Service.Running _ := ⟨session.lookups, session.company.pool⟩
  let (response, service) := service.handle session.config session.look clock request
  let company := (session.company.takeOver session.flaws service.pool).settle
  { session with
    company
    lookups := service.store
    answered := session.answered ++ [(response, company.pool.active)] }

/-- Answers requests, and then lets all builds end. -/
def run (session : Session) (requests : List Http.Request) : Session :=
  let session := requests.foldl handle session
  { session with company := session.company.releaseAll.settle }

end Session

end BuildHook.Rehearsal
