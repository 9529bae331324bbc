import BuildHook.Build.Error
import BuildHook.Proofs.List.Last
import BuildHook.Proofs.Text.Lines

/-!
# Messages of failed processes

The message of a failed process names what failed and how it ended, and quotes one line of what the
process wrote. Whatever that was, the message stays on one line and short.

## Main results

`summaryLine?_eq_some_iff` and `summaryLine?_eq_none_iff` say which line is quoted;
`failures_summarized` is what the messages of failed git calls and of failed scripts tell.
-/

namespace BuildHook.Process

open Text

/-- A row that names an error: by the word anywhere in it, or by a mark at its beginning. -/
def NamesError (row : List Char) : Prop :=
  "Error".toList <:+: row ∨ OpensWith "fatal:".toList row ∨ OpensWith "error:".toList row

/-- The row of an output that is quoted: the last one that names an error, or the last one that is
not blank if none names an error. -/
def IsTelling (row : List Char) (among : List (List Char)) : Prop :=
  IsLast NamesError row among
    ∨ (∀ other ∈ among, ¬ NamesError other) ∧ IsLast (fun row => ¬ IsBlankText row) row among

/-- How messages that begin with `head` summarize an output: they quote nothing but an excerpt of
its telling row, so they are short, and blanks behind the output do not matter. -/
structure Summarizes (head : String) (message : String → String) : Prop where
  bare_iff : ∀ output, message output = head ↔ IsBlankText output.toList
  excerpt : ∀ output, ¬ IsBlankText output.toList →
    ∃ row core, IsTelling row (rows output.toList) ∧ IsCore core row ∧ core ≠ []
      ∧ message output = head ++ ": " ++ String.ofList (core.take 200)
  bounded : ∀ output, (message output).length ≤ head.length + 202
    ∧ (message output).utf8ByteSize ≤ head.utf8ByteSize + 802
  settled : ∀ output blanks, IsBlankText blanks.toList →
    message (output ++ blanks) = message output

/-! ## The quoted line -/

theorem tellingLines_eq (output : List Char) : tellingLines output = cores (rows output) :=
  cores_lines output

/-- Whether a row names an error can be seen when it is trimmed. -/
theorem speaksOfError_trim_iff (row : List Char) :
    speaksOfError (trim row) = true ↔ NamesError row := by
  rw [speaksOfError, Bool.or_eq_true, Bool.or_eq_true, occursIn_iff, List.isPrefixOf_iff_prefix,
    List.isPrefixOf_iff_prefix, infix_trim_iff (by decide), prefix_trim_iff (by decide),
    prefix_trim_iff (by decide), or_assoc]
  rfl

theorem isEmpty_of_speaksOfError {line : List Char} (speaks : speaksOfError line = true) :
    line.isEmpty = false := by
  cases line with
  | nil => exact absurd speaks (by decide)
  | cons c rest => rfl

theorem not_isEmpty_trim_iff (row : List Char) :
    (!(trim row).isEmpty) = true ↔ ¬ IsBlankText row := by
  rw [Bool.not_eq_true', List.isEmpty_eq_false_iff, ne_eq, trim_eq_nil_iff]

theorem NamesError.not_isBlankText {row : List Char} (names : NamesError row) :
    ¬ IsBlankText row := by
  have speaks := (speaksOfError_trim_iff row).mpr names
  rw [← not_isEmpty_trim_iff, isEmpty_of_speaksOfError speaks]
  rfl

/-- What names an error is not blank, so blank lines need not be left out before it is looked for. -/
theorem filter_speaksOfError_cores (texts : List (List Char)) :
    (cores texts).filter speaksOfError = (texts.map trim).filter speaksOfError := by
  rw [cores, List.filter_filter]
  apply List.filter_congr
  intro line _
  cases speaks : speaksOfError line with
  | false => rfl
  | true =>
    rw [isEmpty_of_speaksOfError speaks]
    rfl

theorem summaryLine?_eq (output : List Char) :
    summaryLine? output
      = (((rows output).map trim).filter speaksOfError).getLast?.or
        (cores (rows output)).getLast? := by
  rw [summaryLine?, tellingLines_eq, filter_speaksOfError_cores]
  cases (((rows output).map trim).filter speaksOfError).getLast? <;> rfl

theorem lastSpeaking_eq_none_iff (texts : List (List Char)) :
    ((texts.map trim).filter speaksOfError).getLast? = none
      ↔ ∀ other ∈ texts, ¬ NamesError other := by
  simp only [List.getLast?_eq_none_iff, List.filter_eq_nil_iff, List.forall_mem_map,
    speaksOfError_trim_iff]

/-- The quoted line is the telling row without the blanks at its ends. -/
theorem summaryLine?_eq_some_iff (output core : List Char) :
    summaryLine? output = some core ↔ ∃ row, IsTelling row (rows output) ∧ IsCore core row := by
  have naming (row : List Char) : IsLast (fun row => speaksOfError (trim row) = true) row
      (rows output) ↔ IsLast NamesError row (rows output) := IsLast.congr speaksOfError_trim_iff
  have full (row : List Char) : IsLast (fun row => (!(trim row).isEmpty) = true) row (rows output)
      ↔ IsLast (fun row => ¬ IsBlankText row) row (rows output) :=
    IsLast.congr not_isEmpty_trim_iff
  rw [summaryLine?_eq, Option.or_eq_some_iff, lastSpeaking_eq_none_iff,
    getLast?_filter_map_eq_some_iff, cores, getLast?_filter_map_eq_some_iff]
  simp only [naming, full, IsTelling, isCore_iff]
  constructor
  · rintro (⟨row, last, core⟩ | ⟨none_names, row, last, core⟩)
    · exact ⟨row, .inl last, core⟩
    · exact ⟨row, .inr ⟨none_names, last⟩, core⟩
  · rintro ⟨row, last | ⟨none_names, last⟩, core⟩
    · exact .inl ⟨row, last, core⟩
    · exact .inr ⟨none_names, row, last, core⟩

/-- Nothing is quoted exactly of an output that is blank. -/
theorem summaryLine?_eq_none_iff (output : List Char) :
    summaryLine? output = none ↔ IsBlankText output := by
  rw [summaryLine?_eq, Option.or_eq_none_iff, List.getLast?_eq_none_iff, List.getLast?_eq_none_iff,
    cores_eq_nil_iff, ← isBlankText_iff_rows, and_iff_right_iff_imp]
  intro blank
  have none_left : cores (rows output) = [] := cores_eq_nil_iff.mpr (isBlankText_iff_rows.mp blank)
  rw [← filter_speaksOfError_cores, none_left]
  rfl

/-- Blanks behind an output do not change what is quoted of it. -/
theorem summaryLine?_append {blanks : List Char} (blank : IsBlankText blanks)
    (output : List Char) : summaryLine? (output ++ blanks) = summaryLine? output := by
  simp only [summaryLine?, tellingLines_eq, cores_rows_append blank]

theorem IsTelling.mem {row : List Char} {among : List (List Char)}
    (telling : IsTelling row among) : row ∈ among := by
  rcases telling with last | ⟨-, last⟩
  · exact last.mem
  · exact last.mem

theorem IsTelling.not_isBlankText {row : List Char} {among : List (List Char)}
    (telling : IsTelling row among) : ¬ IsBlankText row := by
  rcases telling with last | ⟨-, last⟩
  · exact last.holds.not_isBlankText
  · exact last.holds

/-! ## The summary -/

theorem summary_eq_empty_iff (output : String) :
    summary output = "" ↔ IsBlankText output.toList := by
  rw [← summaryLine?_eq_none_iff, summary]
  cases summaryLine? output.toList with
  | none => simp
  | some core => simp

/-- What is said about an output that is not blank. -/
theorem exists_summary_eq {output : String} (some_left : ¬ IsBlankText output.toList) :
    ∃ row core, IsTelling row (rows output.toList) ∧ IsCore core row ∧ core ≠ []
      ∧ summary output = ": " ++ String.ofList (core.take 200) := by
  rw [← summaryLine?_eq_none_iff] at some_left
  obtain ⟨core, quoted⟩ := Option.ne_none_iff_exists'.mp some_left
  obtain ⟨row, telling, isCore⟩ := (summaryLine?_eq_some_iff _ core).mp quoted
  refine ⟨row, core, telling, isCore, ?_, ?_⟩
  · rw [← isCore_iff.mp isCore, ne_eq, trim_eq_nil_iff]
    exact telling.not_isBlankText
  · rw [summary, quoted]
    rfl

/-- Either nothing is said about an output, or a few characters of one of its rows. -/
theorem summary_cases (output : String) :
    summary output = ""
      ∨ ∃ row ∈ rows output.toList, ∃ excerpt ⊆ row, excerpt.length ≤ 200
        ∧ summary output = ": " ++ String.ofList excerpt := by
  by_cases blank : IsBlankText output.toList
  · exact .inl ((summary_eq_empty_iff output).mpr blank)
  · obtain ⟨row, core, telling, isCore, -, said⟩ := exists_summary_eq blank
    obtain ⟨lead, trail, -, -, split⟩ := isCore.between
    refine .inr ⟨row, telling.mem, core.take 200, ?_, List.length_take_le 200 core, said⟩
    rw [split]
    exact List.Subset.trans (List.take_subset 200 core) (List.infix_append lead core trail).subset

theorem feed_not_mem_summary (output : String) : '\n' ∉ (summary output).toList := by
  rcases summary_cases output with nothing | ⟨row, mem, excerpt, inside, -, said⟩
  · rw [nothing]
    exact List.not_mem_nil
  · have kept : '\n' ∉ excerpt := fun here => feed_not_mem_row mem (inside here)
    rw [said, String.toList_append, @String.toList_ofList excerpt]
    exact List.not_mem_append (by decide) kept

theorem length_summary_le (output : String) : (summary output).length ≤ 202 := by
  rcases summary_cases output with nothing | ⟨_, _, excerpt, _, short, said⟩
  · rw [nothing]
    decide
  · have colon : ": ".length = 2 := by decide
    rw [said, String.length_append, @String.length_ofList excerpt, colon]
    omega

theorem utf8ByteSize_ofList_le (s : List Char) :
    (String.ofList s).utf8ByteSize ≤ 4 * s.length := by
  induction s with
  | nil => decide
  | cons c rest ih =>
    have := c.utf8Size_le_four
    rw [String.ofList_cons, String.utf8ByteSize_append, String.utf8ByteSize_singleton,
      List.length_cons]
    omega

theorem utf8ByteSize_summary_le (output : String) : (summary output).utf8ByteSize ≤ 802 := by
  rcases summary_cases output with nothing | ⟨_, _, excerpt, _, short, said⟩
  · rw [nothing]
    decide
  · have small := utf8ByteSize_ofList_le excerpt
    have colon : ": ".utf8ByteSize = 2 := by decide
    rw [said, String.utf8ByteSize_append, colon]
    omega

theorem summary_append {blanks : String} (blank : IsBlankText blanks.toList) (output : String) :
    summary (output ++ blanks) = summary output := by
  rw [summary, summary, String.toList_append, summaryLine?_append blank]

/-! ## Messages -/

theorem failureText_eq (subject : String) (code : ExitCode) (output : String) :
    failureText subject code output
      = subject ++ " failed (" ++ exitText code ++ ")" ++ summary output := rfl

theorem failureText_summarizes (subject : String) (code : ExitCode) :
    Summarizes (subject ++ " failed (" ++ exitText code ++ ")") (failureText subject code) where
  bare_iff output := by
    rw [failureText_eq, String.append_eq_left_iff, summary_eq_empty_iff]
  excerpt output some_left := by
    obtain ⟨row, core, telling, isCore, full, said⟩ := exists_summary_eq some_left
    refine ⟨row, core, telling, isCore, full, ?_⟩
    rw [failureText_eq, said, ← String.append_assoc]
  bounded output := by
    rw [failureText_eq, String.length_append, String.utf8ByteSize_append]
    exact ⟨Nat.add_le_add_left (length_summary_le output) _,
      Nat.add_le_add_left (utf8ByteSize_summary_le output) _⟩
  settled output blanks blank := by
    rw [failureText_eq, failureText_eq, summary_append blank]

/-- No digit is a line feed. -/
theorem feed_not_mem_toString (n : Nat) : '\n' ∉ (toString n).toList := by
  intro mem
  rw [Nat.toString_eq_repr, Nat.toList_repr] at mem
  exact absurd (Nat.isDigit_of_mem_toDigits (by decide) (by decide) mem) (by decide)

theorem feed_not_mem_exitText (code : ExitCode) : '\n' ∉ (exitText code).toList := by
  cases code with
  | none => decide
  | some code =>
    rw [exitText, String.toList_append]
    apply List.not_mem_append (by decide)
    cases code with
    | ofNat n => exact feed_not_mem_toString n
    | negSucc n =>
      change '\n' ∉ ("-" ++ toString (n + 1)).toList
      rw [String.toList_append]
      exact List.not_mem_append (by decide) (feed_not_mem_toString (n + 1))

/-- The message of a failed process is on one line if the name of what failed is. -/
theorem feed_mem_failureText_iff (subject : String) (code : ExitCode) (output : String) :
    '\n' ∈ (failureText subject code output).toList ↔ '\n' ∈ subject.toList := by
  simp [failureText_eq, feed_not_mem_exitText, feed_not_mem_summary]

theorem message_failed (operation : String) (code : ExitCode) (output : String) :
    (GitError.failed operation code output).message
      = failureText ("git " ++ operation) code output := rfl

theorem message_execution (code : ExitCode) (output : String) :
    (SandboxError.execution code output).message = failureText "script" code output := rfl

/-- The message of a failed git call or script names what failed and how it ended. It says no more
exactly if the output is blank; otherwise it goes on with the first characters, two hundred at most,
of the last line that names an error, or of the last line that is not blank if none names an error,
without the blanks at its ends. So it is on one line if the name of the call is, its length has a
bound whatever the output is, and blanks behind the output do not change it. -/
theorem failures_summarized (code : ExitCode) :
    (∀ operation, Summarizes ("git " ++ operation ++ " failed (" ++ exitText code ++ ")")
      fun output => (GitError.failed operation code output).message)
    ∧ Summarizes ("script failed (" ++ exitText code ++ ")")
      (fun output => (SandboxError.execution code output).message)
    ∧ (∀ operation output, '\n' ∈ (GitError.failed operation code output).message.toList
      ↔ '\n' ∈ operation.toList)
    ∧ ∀ output, '\n' ∉ (SandboxError.execution code output).message.toList := by
  simp only [message_failed, message_execution, feed_mem_failureText_iff]
  have script : "script" ++ " failed (" = "script failed (" := by decide
  refine ⟨fun operation => failureText_summarizes ("git " ++ operation) code, ?_,
    fun operation _ => ?_, fun _ => by decide⟩
  · rw [← script]
    exact failureText_summarizes "script" code
  · rw [String.toList_append, List.mem_append]
    exact or_iff_right (by decide)

/-- Of the output of a clone the line that names the error is quoted, not the hint behind it, and
blank lines behind that change nothing. -/
theorem failures_summarized_clone :
    let output := "Cloning into '.'...\r\n  fatal: repository not found \r\nhint: try again"
    let message (output : String) := (GitError.failed "clone" (some 128) output).message
    ¬ IsBlankText output.toList
    ∧ IsBlankText "\n \u3000\r\n\n".toList
    ∧ message (output ++ "\n \u3000\r\n\n")
      = "git clone failed (exit code 128): fatal: repository not found"
    ∧ ∃ row core, IsTelling row (rows output.toList) ∧ IsCore core row ∧ core ≠ []
      ∧ message output = "git clone failed (exit code 128)" ++ ": " ++ .ofList (core.take 200) := by
  intro output message
  have summarizes := (failures_summarized (some 128)).1 "clone"
  have some_left : ¬ IsBlankText output.toList := by decide
  have blank : IsBlankText "\n \u3000\r\n\n".toList := by decide
  refine ⟨some_left, blank, ?_, summarizes.excerpt output some_left⟩
  exact (summarizes.settled output _ blank).trans (by decide +kernel)

end BuildHook.Process
