import BuildHook.Dispatch.Pool
import BuildHook.Rehearsal.Cast

/-!
# Rehearsed pools

A pool of builds that share one set of stand-ins. Every build goes on as far as it can whenever
something has happened.
-/

namespace BuildHook.Rehearsal

/-- A pool with its stand-ins, and for every build how they treat it. -/
structure Company where
  pool : Dispatch.Pool
  scene : Scene
  roles : List Role

/-- By what a build is recognised. -/
def buildLabel (push : Push) : String := push.fullName ++ "@" ++ push.revision

namespace Company

/-- A company without builds. -/
def create (maxConcurrent : Nat) (scene : Scene) : Company := ⟨.create maxConcurrent, scene, []⟩

/-- How the stand-ins treat a build. -/
def role (company : Company) (build : Nat) : Role := company.roles.getD build ⟨"", []⟩

/-- Lets all builds go on until none can. -/
def settle (company : Company) : Company :=
  let surroundings (build : Nat) := Scene.answer? build (company.role build)
  let (pool, scene) := company.pool.settle surroundings company.scene
  { company with pool, scene }

/-- Takes over a pool in which builds have been dispatched. They get the flaws of their labels. -/
def takeOver (company : Company) (flaws : String → List Flaw) (pool : Dispatch.Pool) : Company :=
  let added := (pool.jobs.drop company.roles.length).map fun job => buildLabel job.push
  { company with
    pool
    roles := company.roles ++ added.map fun label => ⟨label, flaws label⟩ }

/-- Dispatches a build with the flaws of its label. -/
def dispatch (company : Company) (settings : Build.Settings) (flaws : String → List Flaw)
    (push : Push) (project : ProjectRecord) : Company :=
  company.takeOver flaws (company.pool.dispatch settings push project)

/-- The labels of all builds. -/
def labels (company : Company) : List String := company.roles.map Role.label

/-- Lets one more clone of a label through. -/
def release (company : Company) (label : String) : Company :=
  { company with scene := company.scene.release label }

/-- Lets one more clone of every build so far through. -/
def releaseEach (company : Company) : Company :=
  { company with scene := company.labels.foldl Scene.release company.scene }

/-- Lets all clones through. -/
def releaseAll (company : Company) : Company :=
  { company with scene := company.scene.releaseAll }

/-- The labels of all builds in the order in which they were dispatched, each with the requests of
the build. -/
def history (company : Company) : List (String × List Build.Request) :=
  company.labels.zipIdx.map fun (label, build) => (label, company.scene.events build)

/-- The same in the order in which the builds made their first requests. -/
def appearances (company : Company) : List (String × List Build.Request) :=
  company.scene.order.map fun build =>
    ((company.role build).label, company.scene.events build)

end Company

end BuildHook.Rehearsal
