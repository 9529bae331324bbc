import BuildHook.Http.Form
import BuildHook.Webhook.Verdict

/-!
# The service

Three resources: a health page, a status page and the place where notifications arrive. Other paths
are not found, and other methods are not allowed.
-/

namespace BuildHook.Service

/-- The name of the service. -/
def name : String := "pushbuild"

/-- The version of the service. -/
def version : String := "0.1.0"

/-- What a running service can tell about itself. -/
structure Figures where
  activeBuilds : Nat
  uptimeSeconds : Nat
  startedAt : String

/-- The health page: a text, or an object if `format` is `json`. -/
def healthPage (figures : Figures) (request : Http.Request) : Http.Response :=
  if Http.Form.value? request.query "format" = some "json" then
    .json 200 (.object
      [("active_builds", .int figures.activeBuilds), ("name", .string name),
        ("status", .string "healthy"), ("uptime_seconds", .int figures.uptimeSeconds),
        ("version", .string version)])
  else .plain 200 (name ++ " - healthy")

/-- The status page. -/
def statusPage (config : Config) (figures : Figures) : Http.Response :=
  .json 200 (.object
    [("server", .object
        [("name", .string name), ("version", .string version),
          ("uptime_seconds", .int figures.uptimeSeconds),
          ("started_at", .string figures.startedAt),
          ("total_projects", .int config.projects.length)]),
      ("builds", .object
        [("active", .int figures.activeBuilds),
          ("max_concurrent", .int (max 1 config.build.maxConcurrentBuilds))])])

/-- A response, with the build that the request starts. -/
structure Reaction where
  response : Http.Response
  build? : Option (Push × ProjectRecord)

/-- A response to a request that starts nothing. -/
def Reaction.only (response : Http.Response) : Reaction := ⟨response, none⟩

/-- The reaction to a request for a page. -/
def showPage (request : Http.Request) (page : Http.Response) : Reaction :=
  if request.method = "GET" then .only page
  else if request.method = "HEAD" then .only page.withoutBody
  else .only (.bare 405 (some "GET,HEAD"))

/-- The reaction to a request at the place where notifications arrive. -/
def receive (server : ServerSection) (request : Http.Request) : Webhook.Lookup Reaction :=
  if request.method = "POST" then do
    let verdict ← Webhook.judge server request
    return ⟨verdict.response, verdict.build?⟩
  else return .only (.bare 405 (some "POST"))

/-- The reaction to a request. -/
def react (config : Config) (figures : Figures) (request : Http.Request) :
    Webhook.Lookup Reaction :=
  if request.path = "/" then return showPage request (healthPage figures request)
  else if request.path = "/status" then return showPage request (statusPage config figures)
  else if request.path = "/webhook" then receive config.server request
  else return .only (.bare 404 none)

end BuildHook.Service
