import BuildHook.Event
import BuildHook.Project.Key
import BuildHook.Push.Basic

/-!
# Script contexts

What a pipeline script can see: the push, the project's key on a single line, the project key and
the event, under fixed names; and the form in which the definition is handed to the interpreter.
-/

namespace BuildHook

/-- What stands in for a line feed in a key that is handed to a script. -/
def keyLineMark : Char := '$'

/-- A key on a single line. -/
def flattenKey (key : String) : String :=
  key.map fun c => if c = '\n' then keyLineMark else c

/-- The definition inside a function, so that it runs only when it is handed the events. -/
def wrapDefinition (source : String) : String :=
  "var registerEvents = function(events) \x7b\n" ++ source ++ "\n\x7d;"

/-- The values that a script can see. -/
structure ScriptContext where
  pushRecord : Json
  sshKey : String
  configName : String
  eventName : String

namespace ScriptContext

/-- The context of a push to a project with the given key. -/
def ofPush (push : Push) (sshKey : Option String) : ScriptContext where
  pushRecord := push.toJson.canonical
  sshKey := flattenKey (sshKey.getD "")
  configName := Project.key push.fullName
  eventName := Event.pushName

/-- The values with the names under which a script sees them, in the order of binding. -/
def bindings (context : ScriptContext) : List (String × Json) :=
  [("pushRecord", context.pushRecord), ("sshKey", .string context.sshKey),
    ("configName", .string context.configName), ("eventName", .string context.eventName)]

end ScriptContext

end BuildHook
