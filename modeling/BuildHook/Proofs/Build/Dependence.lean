import BuildHook.Proofs.Build.Span
import BuildHook.Proofs.Build.Veil

/-!
# What builds depend on

A build does the same wherever its key is staged. It works in its workspace only, and does so, but
for making it, only once it was made.

## Main results

`run_alike` is about the key, `run_careful` about the workspace.
-/

namespace BuildHook

/-- A staged key, wherever its file is. -/
def StagedKey.masked (key : StagedKey) : StagedKey := { key with path := "" }

namespace Build

open Procedure

/-- A request with its key, wherever the file of it is. -/
def Request.masked : Request → Request
  | .discardKey key => .discardKey key.masked
  | .clone url dest key => .clone url dest (key.map StagedKey.masked)
  | .update dest key => .update dest (key.map StagedKey.masked)
  | r => r

/-- What was answered, wherever the key file is. -/
def maskedReply : (r : Request) → Reply r → Reply r.masked
  | .stageKey _, reply => Except.map StagedKey.masked reply
  | .discardKey _, reply => reply
  | .publish _, reply => reply
  | .enter _, reply => reply
  | .leave _, reply => reply
  | .makeDirectories _, reply => reply
  | .clone .., reply => reply
  | .update .., reply => reply
  | .checkout .., reply => reply
  | .readText _, reply => reply
  | .openSandbox _, reply => reply
  | .bind .., reply => reply
  | .evaluate _, reply => reply
  | .load _, reply => reply

/-- An exchange, wherever the key file is. -/
def masked (x : Exchange) : Exchange := ⟨x.question.masked, maskedReply x.question x.answer⟩

@[simp] theorem kind_masked (r : Request) : r.masked.kind = r.kind := by cases r <;> rfl

/-- Two procedures that do the same for keys of the same content, wherever these were staged. -/
inductive Alike {α : Type} : Steps α → Steps α → Prop
  | done (a) : Alike (.done a) (.done a)
  | ask {r r' next next'} (same : r.masked = r'.masked)
      (tail : ∀ reply reply', masked ⟨r, reply⟩ = masked ⟨r', reply'⟩ →
        Alike (next reply) (next' reply')) :
      Alike (.ask r next) (.ask r' next')

variable {ε δ α β : Type}

/-- The veil that hides where key files are, and nothing else. -/
def placeVeil : Veil := ⟨id, StagedKey.masked, fun _ value => value⟩

theorem veiled_placeVeil (r : Request) : r.veiled placeVeil = r.masked := by cases r <;> rfl

theorem exchange_placeVeil (x : Exchange) : placeVeil.exchange x = masked x := by
  obtain ⟨r, reply⟩ := x
  cases r <;> rfl

/-- What is the same wherever key files are does the same for keys of the same content. -/
theorem alike_of_same {p p' : Steps α} (same : placeVeil.Same p p') : Alike p p' := by
  induction same with
  | done a => exact .done a
  | ask same tail ih =>
    rw [veiled_placeVeil, veiled_placeVeil] at same
    refine .ask same fun reply reply' answers => ih reply reply' ?_
    rw [exchange_placeVeil, exchange_placeVeil, answers]

/-- A build does the same wherever its key is staged. -/
theorem run_alike (settings : Settings) (push : Push) (project : ProjectRecord) :
    Alike (run settings push project) (run settings push project) :=
  alike_of_same (run_same settings push ⟨rfl, rfl⟩)

/-- Whether an answer says that the workspace is there. -/
def makes : Exchange → Bool
  | ⟨.makeDirectories _, .ok ()⟩ => true
  | _ => false

/-- Whether steps work in a workspace only, and only after it was made. -/
def Careful {α : Type} (workspace : Option String) : Bool → Steps α → Prop
  | _, .done _ => True
  | made, .ask r next =>
    (r.kind = .work → ∃ dest, workspace = some dest ∧ r.IsIn dest
      ∧ (made = true ∨ r = .makeDirectories dest))
    ∧ ∀ reply, Careful workspace (made || makes ⟨r, reply⟩) (next reply)

variable {workspace : Option String} {made : Bool}

theorem careful_of_asks {dest : String} {p : Steps α} (hp : p.Asks (Request.IsIn dest)) :
    Careful (some dest) true p := by
  induction p with
  | done a => trivial
  | ask r next ih =>
    exact ⟨fun _ => ⟨dest, rfl, hp.1, .inl rfl⟩, fun reply => ih reply (hp.2 reply)⟩

theorem Careful.andThen {p : Steps α} {f : α → Steps β} (hp : Careful workspace made p)
    (hf : ∀ a made, Careful workspace made (f a)) : Careful workspace made (p.andThen f) := by
  induction p generalizing made with
  | done a => exact hf a made
  | ask r next ih => exact ⟨hp.1, fun reply => ih reply (hp.2 reply)⟩

/-- One request that is no work. -/
theorem Careful.ask {r : Request} {next : Reply r → Steps α} (idle : r.kind ≠ .work)
    (hn : ∀ reply made, Careful workspace made (next reply)) :
    Careful workspace made (.ask r next) :=
  ⟨fun work => absurd work idle, fun reply => hn reply _⟩

theorem work_careful (settings : Settings) (push : Push) (project : ProjectRecord)
    (key : Option StagedKey) :
    Careful (workspaceOf settings push) false (work settings push project key) := by
  unfold work workspaceOf
  cases Workspace.dir? settings.cacheRoot push.fullName with
  | none => trivial
  | some dest =>
    have inside : Careful (some dest) false (inWorkspace settings push project key dest).run := by
      refine ⟨fun _ => ⟨dest, rfl, rfl, .inr rfl⟩, fun reply => ?_⟩
      cases reply with
      | error cause => trivial
      | ok done =>
        show Careful (some dest) true (ExceptT.run _)
        cases cloneAddress push project with
        | ok url => exact careful_of_asks (buildRevision_asks settings push project key dest url)
        | error e => trivial
    refine ⟨fun work => (nomatch work), fun _ => ?_⟩
    exact inside.andThen fun result made => .ask (fun work => (nomatch work)) fun _ _ => trivial

theorem reported_careful (settings : Settings) (push : Push) (project : ProjectRecord)
    (key : Option StagedKey) :
    Careful (workspaceOf settings push) false (reported settings push project key) := by
  refine ⟨fun work => (nomatch work), fun _ => ?_⟩
  exact (work_careful settings push project key).andThen fun result made =>
    .ask (fun work => (nomatch work)) fun _ _ => trivial

/-- Every build works in its workspace only, and only after it was made. -/
theorem run_careful (settings : Settings) (push : Push) (project : ProjectRecord) :
    Careful (workspaceOf settings push) false (run settings push project) := by
  unfold run
  cases project.usableKey with
  | none => exact reported_careful settings push project none
  | some key =>
    refine ⟨fun work => (nomatch work), fun staging => ?_⟩
    cases staging with
    | error cause => trivial
    | ok staged =>
      exact (reported_careful settings push project (some staged)).andThen fun state made =>
        .ask (fun work => (nomatch work)) fun _ _ => trivial

end Build

end BuildHook
