import BuildHook.Git.Call
import BuildHook.Proofs.Shell.Line

/-!
# The command for the remote side

Git hands the command by which it reaches the remote side to a shell. The path of the key file
stands between single quotes in it, so it is one word of the command unless it holds such a quote
itself: then the quote ends there, and what follows is read as the shell reads any other text.

## Main results

`parts_sshCommand_iff` says for which paths the shell finds the words that are meant and nothing
else, and `sshCommand_not_always_quoted` what it finds for two others.
-/

namespace BuildHook

open Shell

/-- The words behind the path. -/
def sshOptions : List String :=
  ["-o", "IdentitiesOnly=yes", "-o", "StrictHostKeyChecking=accept-new"]

/-- The parts of a command line that has just the words that are meant. -/
def sshParts (keyPath : String) : List Part :=
  [.word "ssh", .word "-i"] ++ .word keyPath :: sshOptions.map Part.word

/-- The scan behind the quote before the path. -/
def beforePath : Scan := ⟨[.word "ssh", .word "-i"], some [], .single⟩

/-- The text of the options, each behind a blank. -/
def optionText : List Char := sshOptions.flatMap fun text => ' ' :: text.toList

theorem parts_sshCommand (keyPath : String) :
    parts (sshCommand keyPath)
      = (optionText.foldl Scan.read ((keyPath.toList.foldl Scan.read beforePath).read '\'')).finish
    := by
  have opening : "ssh -i '".toList.foldl Scan.read Scan.start = beforePath := by decide +kernel
  have closing : "' -o IdentitiesOnly=yes -o StrictHostKeyChecking=accept-new".toList
      = '\'' :: optionText := by
    decide +kernel
  rw [parts, sshCommand, String.toList_append, String.toList_append, List.foldl_append,
    List.foldl_append, opening, closing, List.foldl_cons]

theorem ordinary_sshOptions :
    ∀ text ∈ sshOptions, text ≠ "" ∧ ∀ c ∈ text.toList, c ∉ specials := by
  simp [sshOptions, specials, signs]

/-- Behind a word outside quotes the options are read as they are meant. -/
theorem finish_options (front : List Part) (word : List Char) :
    (optionText.foldl Scan.read ⟨front, some word, .plain⟩).finish
      = some (front ++ .word (.ofList word) :: sshOptions.map Part.word) :=
  Scan.finish_words sshOptions ordinary_sshOptions

/-- A path without a single quote is one word. -/
theorem parts_of_unquoted {keyPath : String} (unquoted : '\'' ∉ keyPath.toList) :
    parts (sshCommand keyPath) = some (sshParts keyPath) := by
  have closed : Scan.read ⟨[.word "ssh", .word "-i"], some ([] ++ keyPath.toList), .single⟩ '\''
      = ⟨[.word "ssh", .word "-i"], some keyPath.toList, .plain⟩ := rfl
  rw [parts_sshCommand, beforePath, Scan.foldl_single _ unquoted, closed, finish_options,
    String.ofList_toList]
  rfl

/-- A word that is too short for a path does not become the path by the quote behind it: either the
quote ends it, with one character more at most, or it opens or keeps open a quote that nothing
closes. -/
theorem finish_quote_ne {front : List Part} {n : Nat} {s : Scan} (within : Within front n s)
    {keyPath : String} (longer : n < keyPath.toList.length) :
    (optionText.foldl Scan.read (s.read '\'')).finish
      ≠ some (front ++ .word keyPath :: sshOptions.map Part.word) := by
  have unlike {word : List Char} (short : word.length < keyPath.toList.length) :
      String.ofList word ≠ keyPath := by
    rintro rfl
    rw [String.toList_ofList] at short
    exact Nat.lt_irrefl _ short
  have ends {word : List Char} (short : word.length < keyPath.toList.length) :
      (optionText.foldl Scan.read ⟨front, some word, .plain⟩).finish
        ≠ some (front ++ .word keyPath :: sshOptions.map Part.word) := by
    rw [finish_options]
    simpa using unlike short
  have single_open (word : List Char) :
      (optionText.foldl Scan.read ⟨front, some word, .single⟩).finish = none := by
    rw [Scan.foldl_single optionText (by simp [optionText, sshOptions])]
    rfl
  have double_open (word : List Char) :
      (optionText.foldl Scan.read ⟨front, some word, .double⟩).finish = none := by
    rw [Scan.foldl_double optionText (by simp [optionText, sshOptions, doubleSigns])]
    rfl
  cases within with
  | @ended text _ at_front short =>
    refine Scan.finish_ne (at_front.trans (Scan.grows_read s '\'')) ?_ optionText
    rintro rfl
    exact absurd longer (Nat.not_lt.mpr short)
  | @begun word mode outside short =>
    cases mode with
    | plain =>
      change (optionText.foldl Scan.read ⟨front, some word, .single⟩).finish ≠ _
      rw [single_open]
      nofun
    | escaped =>
      change word.length + 1 ≤ n at short
      apply ends
      rw [Option.getD_some, List.length_append, List.length_singleton]
      exact Nat.lt_of_le_of_lt short longer
    | comment => exact absurd rfl outside
    | single =>
      change word.length + 1 ≤ n at short
      exact ends (by omega)
    | double =>
      change (optionText.foldl Scan.read ⟨front, some (word ++ ['\'']), .double⟩).finish ≠ _
      rw [double_open]
      nofun
    | doubleEscaped =>
      change (optionText.foldl Scan.read
        ⟨front, some (word ++ ['\\'] ++ ['\'']), .double⟩).finish ≠ _
      rw [double_open]
      nofun

/-- A path with a single quote is not one of the words. -/
theorem parts_of_quoted {keyPath : String} (quoted : '\'' ∈ keyPath.toList) :
    parts (sshCommand keyPath) ≠ some (sshParts keyPath) := by
  obtain ⟨text, rest, split, unquoted⟩ := List.eq_append_cons_of_mem quoted
  have closed : Scan.read ⟨[.word "ssh", .word "-i"], some ([] ++ text), .single⟩ '\''
      = ⟨[.word "ssh", .word "-i"], some text, .plain⟩ := rfl
  have within : Within [.word "ssh", .word "-i"] (text.length + rest.length)
      (rest.foldl Scan.read ⟨[.word "ssh", .word "-i"], some text, .plain⟩) :=
    (Within.begun (show Mode.plain ≠ .comment by decide) (Nat.le_refl _)).foldl rest
  have longer : text.length + rest.length < keyPath.toList.length := by
    rw [split, List.length_append, List.length_cons]
    omega
  rw [parts_sshCommand, split, List.foldl_append, List.foldl_cons, beforePath,
    Scan.foldl_single _ unquoted, closed]
  exact finish_quote_ne within longer

/-- A shell reads the command for a key file as the words that are meant, with the path for one of
them, and finds nothing else in it, exactly if the path holds no single quote. -/
theorem parts_sshCommand_iff (keyPath : String) :
    parts (sshCommand keyPath)
      = some (["ssh", "-i", keyPath, "-o", "IdentitiesOnly=yes", "-o",
          "StrictHostKeyChecking=accept-new"].map Part.word)
      ↔ '\'' ∉ keyPath.toList := by
  constructor
  · intro read quoted
    exact parts_of_quoted quoted read
  · exact parts_of_unquoted

/-- With one single quote in the path the command is no complete line, and with two of them it can
hold another command. -/
theorem sshCommand_not_always_quoted :
    parts (sshCommand "/tmp/o'neil/key") = none
    ∧ parts (sshCommand "/tmp/'; reboot; '/key")
      = some [.word "ssh", .word "-i", .word "/tmp/", .sign ';', .word "reboot", .sign ';',
          .word "/key", .word "-o", .word "IdentitiesOnly=yes", .word "-o",
          .word "StrictHostKeyChecking=accept-new"]
    ∧ ¬ ∀ keyPath : String, '\x00' ∉ keyPath.toList →
      parts (sshCommand keyPath)
        = some (["ssh", "-i", keyPath, "-o", "IdentitiesOnly=yes", "-o",
            "StrictHostKeyChecking=accept-new"].map Part.word) := by
  have unread : parts (sshCommand "/tmp/o'neil/key") = none := by decide +kernel
  refine ⟨unread, by decide +kernel, fun always => ?_⟩
  have read := always "/tmp/o'neil/key" (by decide +kernel)
  rw [unread] at read
  cases read

end BuildHook
