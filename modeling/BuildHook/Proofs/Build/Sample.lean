import BuildHook.Build.Run

/-!
# A sample build

A push to a small repository whose project has a key, and surroundings in which the clone and the
checkout fail. The statements about all builds are tried out on them.
-/

namespace BuildHook.Build.Sample

def settings : Settings := ⟨"_cache", "runner.js", "http://ci.example.com", "pushbuild"⟩

/-- A push to a repository of this name. -/
def pushTo (fullName : String) : Push where
  gitRef := none
  before := none
  after := none
  compare := none
  repository := ⟨fullName, "u", some "ssh", none, none⟩
  headCommit := ⟨"c1", none, none, none, none⟩
  commits := []
  pusher := none

def project : ProjectRecord := ⟨"a/b", "s", some "K"⟩

/-- What a failed git call reports. -/
def gitFailure (operation : String) : GitError := .failed operation (some 128) "fatal: no"

/-- Surroundings that count the requests. No report arrives, and clones and checkouts fail. -/
def answer : (r : Request) → Nat → Reply r × Nat
  | .stageKey content, n => (.ok ⟨"/tmp/key", content⟩, n + 1)
  | .discardKey _, n => ((), n + 1)
  | .publish _, n => (.error (.rejected 500 ""), n + 1)
  | .enter _, n => ((), n + 1)
  | .leave _, n => ((), n + 1)
  | .makeDirectories _, n => (.ok (), n + 1)
  | .clone .., n => (.error (gitFailure "clone"), n + 1)
  | .update .., n => (.ok (), n + 1)
  | .checkout .., n => (.error (gitFailure "checkout"), n + 1)
  | .readText _, n => (.ok "", n + 1)
  | .openSandbox _, n => ((), n + 1)
  | .bind .., n => (.ok (), n + 1)
  | .evaluate _, n => (.ok (), n + 1)
  | .load _, n => (.ok (), n + 1)

end BuildHook.Build.Sample
