import BuildHook.Build.Error

/-!
# Messages of failed builds

Every message names what failed before it quotes anything, so none is empty.
-/

namespace BuildHook

namespace Text

theorem append_ne_empty_of_left {s : String} (hs : s ≠ "") (t : String) : s ++ t ≠ "" :=
  fun h => hs (String.append_eq_empty_iff.mp h).1

theorem append_ne_empty_of_right (s : String) {t : String} (ht : t ≠ "") : s ++ t ≠ "" :=
  fun h => ht (String.append_eq_empty_iff.mp h).2

end Text

open Text

/-- A failed process is always told of in words. -/
theorem Process.failureText_ne_empty (subject : String) (code : ExitCode) (output : String) :
    failureText subject code output ≠ "" :=
  append_ne_empty_of_left (append_ne_empty_of_right _ (by decide)) _

theorem SandboxError.message_ne_empty (e : SandboxError) : e.message ≠ "" := by
  cases e with
  | invalidName name => exact append_ne_empty_of_left (by decide) _
  | read path cause =>
    exact append_ne_empty_of_left (append_ne_empty_of_right _ (by decide)) _
  | spawn interpreter cause =>
    exact append_ne_empty_of_left (append_ne_empty_of_right _ (by decide)) _
  | compile output => exact append_ne_empty_of_left (by decide) _
  | execution code output => exact Process.failureText_ne_empty "script" code output
  | staging cause => exact append_ne_empty_of_left (by decide) _

theorem ScriptError.message_ne_empty (e : ScriptError) : e.message ≠ "" := by
  cases e with
  | serialize cause => exact append_ne_empty_of_left (by decide) _
  | bootstrap cause => exact append_ne_empty_of_left (by decide) _
  | malformedDefinition cause wrapped =>
    exact append_ne_empty_of_left (append_ne_empty_of_right _ (by decide)) _
  | runner path cause =>
    exact append_ne_empty_of_left (append_ne_empty_of_right _ (by decide)) _

/-- No failed build is reported with an empty message, whatever the causes inside are. -/
theorem BuildError.message_ne_empty (e : BuildError) : e.message ≠ "" := by
  cases e with
  | credentials cause => exact append_ne_empty_of_left (by decide) _
  | invalidRepository name => exact append_ne_empty_of_left (by decide) _
  | workspace path cause =>
    exact append_ne_empty_of_left (append_ne_empty_of_right _ (by decide)) _
  | missingSshUrl => decide
  | clone url first second =>
    exact append_ne_empty_of_left (append_ne_empty_of_right _ (by decide)) _
  | checkout revision cause =>
    exact append_ne_empty_of_left (append_ne_empty_of_right _ (by decide)) _
  | definition path cause =>
    exact append_ne_empty_of_left (append_ne_empty_of_right _ (by decide)) _
  | script cause => exact cause.message_ne_empty

end BuildHook
