import BuildHook.Build.Run
import BuildHook.Config.Basic

/-!
# Settings of builds
-/

namespace BuildHook.Build

/-- The settings that a configuration gives to builds. -/
def Settings.ofConfig (config : Config) : Settings where
  cacheRoot := config.build.cacheRoot
  runnerScript := config.build.runnerScript
  targetUrl := config.status.targetUrl
  context := config.status.context

end BuildHook.Build
