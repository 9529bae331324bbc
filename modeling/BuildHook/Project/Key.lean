import BuildHook.Digest.Sha256
import BuildHook.Text.Hex

/-!
# Project keys

Projects are stored under a key that is derived from the repository's full name and holds no
characters with a meaning in paths.
-/

namespace BuildHook.Project

/-- Digits of the digest that a key keeps. -/
def keyDigits : Nat := 54

/-- The key of a repository's full name. -/
def key (fullName : String) : String :=
  "cicd-" ++ String.ofList ((Hex.encodeChars (Sha256.hash (Utf8.encode fullName))).take keyDigits)

end BuildHook.Project
