import BuildHook.Procedure.History
import BuildHook.Proofs.Script.Bindings

/-!
# The program of a sandbox as a log

A sandbox only ever adds to its program: a binding whose name is an identifier, a source that the
interpreter has found well formed, and a file that could be read. What fails later takes nothing
back, and what fails before adds nothing. So the program is the log of what its calls added, and the
interpreter is always given the log with what the present call would add.

## Main results

`Act.makes` lists what a call can come to, `Logged.performAll` says that every sequence of calls
keeps the log, and `Act.Makes.given` what the interpreter is given by a call.
-/

namespace BuildHook.Sandbox

open Procedure

/-- A call of a sandbox. -/
inductive Act where
  | bind (name : String) (value : Json)
  | evaluate (source : String)
  | load (path : String)

/-- Makes a call. -/
def Act.call (s : Sandbox) : Act → Call
  | .bind name value => .done (s.bind name value)
  | .evaluate source => s.evaluate source
  | .load path => s.load path

/-- What a sandbox needed, and what it was given. -/
abbrev Exchange := Procedure.Exchange Need Supply

/-- A call that was made, with all that it needed, and its result. -/
structure Entry where
  act : Act
  exchanges : List Exchange
  result : Except SandboxError Unit

/-- Whether the interpreter was run and ended with code zero. -/
def Exchange.isPassed : Exchange → Bool
  | ⟨.interpret .., .ok outcome⟩ => outcome.code == some 0
  | _ => false

/-- The text of a file that was read. -/
def Exchange.text? : Exchange → Option String
  | ⟨.read _, .ok text⟩ => some text
  | _ => none

/-- What a call adds to the program, by what it needed and was given: a binding with an identifier
for its name, a source with which the interpreter ended with code zero, or the text of a file that
was read. -/
def Act.contribution : Act → List Exchange → String
  | .bind name value, _ =>
    if IsIdentifier name then "var " ++ name ++ " = " ++ value.canonical.render ++ ";\n" else ""
  | .evaluate source, h => if h.any Exchange.isPassed then source ++ "\n" else ""
  | .load _, h => (h.findSome? Exchange.text?).elim "" (· ++ "\n")

/-- What the interpreter is given beyond the program: a source that may be added, or a file that
has been. -/
def Act.candidate : Act → List Exchange → String
  | .evaluate source, _ => source ++ "\n"
  | act, h => act.contribution h

/-- What some calls have added to the program, in order. -/
def log (entries : List Entry) : String :=
  String.join (entries.map fun entry => entry.act.contribution entry.exchanges)

/-- The flags with which a call starts the interpreter: a source is only checked. -/
def Act.flags : Act → List String
  | .evaluate _ => ["--check"]
  | _ => []

theorem log_append (entries : List Entry) (entry : Entry) :
    log (entries ++ [entry]) = log entries ++ entry.act.contribution entry.exchanges := by
  simp [log, String.join]

/-- Whether the interpreter was given nothing but a program with what the call would add to it,
staged before, by the flags of the call. -/
def Entry.IsGiven (interpreter workdir before : String) (entry : Entry) : Prop :=
  ∀ interpreter' workdir' flags program reply,
    ⟨.interpret interpreter' workdir' flags program, reply⟩ ∈ entry.exchanges →
    interpreter' = interpreter ∧ workdir' = workdir ∧ flags = entry.act.flags
      ∧ program = before ++ entry.act.candidate entry.exchanges
      ∧ ⟨.stage workdir program, .ok ()⟩ ∈ entry.exchanges

/-! ## Single calls -/

/-- What a run of the interpreter can come to: the program cannot be staged, the interpreter cannot
be started on it, or it ends. -/
inductive Ran (s : Sandbox) (flags : List String) (program : String) :
    List Exchange → Except SandboxError Process.Outcome → Prop
  | unstaged (cause : IoError) :
      Ran s flags program [⟨.stage s.workdir program, .error cause⟩] (.error (.staging cause))
  | unstarted (cause : IoError) :
      Ran s flags program [⟨.stage s.workdir program, .ok ()⟩,
        ⟨.interpret s.interpreter s.workdir flags program, .error cause⟩]
        (.error (.spawn s.interpreter cause))
  | ended (outcome : Process.Outcome) :
      Ran s flags program [⟨.stage s.workdir program, .ok ()⟩,
        ⟨.interpret s.interpreter s.workdir flags program, .ok outcome⟩] (.ok outcome)

/-- What a call can come to: what it needs and is given, its result, and the sandbox after it. -/
inductive Act.Makes (s : Sandbox) : Act → List Exchange → Except SandboxError Unit → Sandbox → Prop
  | misnamed {name value} : ¬ IsIdentifier name →
      Makes s (.bind name value) [] (.error (.invalidName name)) s
  | bound {name value} : IsIdentifier name →
      Makes s (.bind name value) [] (.ok ())
        (s.extend ("var " ++ name ++ " = " ++ value.canonical.render ++ ";\n"))
  | unchecked {source h e} : Ran s ["--check"] (s.program ++ (source ++ "\n")) h (.error e) →
      Makes s (.evaluate source) h (.error e) s
  | refused {source h outcome} :
      Ran s ["--check"] (s.program ++ (source ++ "\n")) h (.ok outcome) →
      outcome.succeeded = false →
      Makes s (.evaluate source) h (.error (.compile outcome.text)) s
  | checked {source h outcome} :
      Ran s ["--check"] (s.program ++ (source ++ "\n")) h (.ok outcome) →
      outcome.succeeded = true →
      Makes s (.evaluate source) h (.ok ()) (s.extend (source ++ "\n"))
  | unread {path} (cause : IoError) :
      Makes s (.load path) [⟨.read path, .error cause⟩] (.error (.read path cause)) s
  | unrun {path h e} (text : String) : Ran s [] (s.program ++ (text ++ "\n")) h (.error e) →
      Makes s (.load path) (⟨.read path, .ok text⟩ :: h) (.error e) (s.extend (text ++ "\n"))
  | failed {path h outcome} (text : String) :
      Ran s [] (s.program ++ (text ++ "\n")) h (.ok outcome) → outcome.succeeded = false →
      Makes s (.load path) (⟨.read path, .ok text⟩ :: h)
        (.error (.execution outcome.code outcome.text)) (s.extend (text ++ "\n"))
  | succeeded {path h outcome} (text : String) :
      Ran s [] (s.program ++ (text ++ "\n")) h (.ok outcome) → outcome.succeeded = true →
      Makes s (.load path) (⟨.read path, .ok text⟩ :: h) (.ok ()) (s.extend (text ++ "\n"))

variable {s after : Sandbox} {h : List Exchange}

theorem leads_interpret {flags : List String} {program : String}
    {result : Except SandboxError Process.Outcome}
    (hl : Leads (s.interpret flags program) h (.done result)) : Ran s flags program h result := by
  change Leads (.ask (.stage s.workdir program) _) h _ at hl
  cases hl with
  | @ask _ _ staged h _ tail =>
    cases staged with
    | error cause =>
      obtain ⟨rfl, hr⟩ := tail.eq_of_done
      cases hr
      exact .unstaged cause
    | ok done =>
      change Leads (.ask (.interpret s.interpreter s.workdir flags program) _) h _ at tail
      cases tail with
      | @ask _ _ started h _ tail =>
        cases started with
        | error cause =>
          obtain ⟨rfl, hr⟩ := tail.eq_of_done
          cases hr
          exact .unstarted cause
        | ok outcome =>
          obtain ⟨rfl, hr⟩ := tail.eq_of_done
          cases hr
          exact .ended outcome

/-- A choice between two results asks nothing. -/
theorem leads_choice {α : Type} {c : Bool} {a b r : α}
    (hl : Leads (if c then .done a else .done b : Procedure Need Supply α) h (.done r)) :
    h = [] ∧ r = if c then a else b := by
  cases c <;> exact hl.eq_of_done.imp_right fun same => Procedure.done.inj same

theorem leads_evaluate {source : String} {result : Except SandboxError Unit}
    (hl : Leads (s.evaluate source) h (.done (result, after))) :
    Act.Makes s (.evaluate source) h result after := by
  change Leads ((s.interpret ["--check"] (s.program ++ (source ++ "\n"))).andThen _) h _ at hl
  obtain ⟨verdict, h₁, h₂, rfl, hi, hd⟩ := (leads_andThen_iff _ _ _ _).mp hl
  have ran := leads_interpret hi
  cases verdict with
  | error e =>
    obtain ⟨rfl, hr⟩ := hd.eq_of_done
    cases hr
    rw [List.append_nil]
    exact .unchecked ran
  | ok outcome =>
    obtain ⟨rfl, hr⟩ := leads_choice hd
    rw [List.append_nil]
    cases succeeded : outcome.succeeded with
    | true =>
      rw [succeeded] at hr
      cases hr
      exact .checked ran succeeded
    | false =>
      rw [succeeded] at hr
      cases hr
      exact .refused ran succeeded

theorem leads_load {path : String} {result : Except SandboxError Unit}
    (hl : Leads (s.load path) h (.done (result, after))) :
    Act.Makes s (.load path) h result after := by
  change Leads (.ask (.read path) _) h _ at hl
  cases hl with
  | @ask _ _ read h _ tail =>
    cases read with
    | error cause =>
      obtain ⟨rfl, hr⟩ := tail.eq_of_done
      cases hr
      exact .unread cause
    | ok text =>
      change Leads (((s.extend (text ++ "\n")).interpret []
        (s.program ++ (text ++ "\n"))).andThen _) h _ at tail
      obtain ⟨verdict, h₁, h₂, rfl, hi, hd⟩ := (leads_andThen_iff _ _ _ _).mp tail
      have ran : Ran s [] (s.program ++ (text ++ "\n")) h₁ verdict := by
        cases leads_interpret hi with
        | unstaged cause => exact .unstaged cause
        | unstarted cause => exact .unstarted cause
        | ended outcome => exact .ended outcome
      cases verdict with
      | error e =>
        obtain ⟨rfl, hr⟩ := hd.eq_of_done
        cases hr
        rw [List.append_nil]
        exact .unrun text ran
      | ok outcome =>
        obtain ⟨rfl, hr⟩ := leads_choice hd
        rw [List.append_nil]
        cases succeeded : outcome.succeeded with
        | true =>
          rw [succeeded] at hr
          cases hr
          exact .succeeded text ran succeeded
        | false =>
          rw [succeeded] at hr
          cases hr
          exact .failed text ran succeeded

/-- Nothing else comes of a call. -/
theorem Act.makes (act : Act) {result : Except SandboxError Unit}
    (hl : Leads (act.call s) h (.done (result, after))) : act.Makes s h result after := by
  cases act with
  | evaluate source => exact leads_evaluate hl
  | load path => exact leads_load hl
  | bind name value =>
    obtain ⟨rfl, hr⟩ := hl.eq_of_done
    have made : (result, after) = s.bind name value := Procedure.done.inj hr
    rw [bind_eq, bindResult] at made
    by_cases valid : IsIdentifier name
    · rw [if_pos valid, if_pos valid] at made
      cases made
      exact .bound valid
    · rw [if_neg valid, if_neg valid] at made
      cases made
      exact .misnamed valid

/-! ## Sequences of calls -/

theorem extend_empty (s : Sandbox) : s.extend "" = s := by
  rw [extend, String.append_empty]

theorem Ran.any_isPassed {flags : List String} {program : String}
    {verdict : Except SandboxError Process.Outcome} (ran : Ran s flags program h verdict) :
    h.any Exchange.isPassed = verdict.toOption.any Process.Outcome.succeeded := by
  cases ran with
  | unstaged cause => rfl
  | unstarted cause => rfl
  | ended outcome => exact (Bool.false_or _).trans (Bool.or_false _)

/-- What a call adds is what the sandbox has more after it. -/
theorem Act.Makes.after_eq {act : Act} {result : Except SandboxError Unit}
    (makes : act.Makes s h result after) :
    after = s.extend (act.contribution h) := by
  cases makes with
  | misnamed invalid => rw [Act.contribution, if_neg invalid, extend_empty]
  | bound valid => rw [Act.contribution, if_pos valid]
  | unchecked ran =>
    rw [Act.contribution, ran.any_isPassed, if_neg (by simp [Except.toOption]), extend_empty]
  | refused ran failed =>
    rw [Act.contribution, ran.any_isPassed, if_neg (by simp [Except.toOption, failed]),
      extend_empty]
  | checked ran succeeded =>
    rw [Act.contribution, ran.any_isPassed, if_pos (by simp [Except.toOption, succeeded])]
  | unread cause => exact (extend_empty s).symm
  | unrun text ran => rfl
  | failed text ran failed => rfl
  | succeeded text ran succeeded => rfl

theorem Ran.given {flags flags' : List String} {program interpreter workdir program' : String}
    {verdict : Except SandboxError Process.Outcome} (ran : Ran s flags program h verdict)
    {reply : Supply (.interpret interpreter workdir flags' program')}
    (given : ⟨.interpret interpreter workdir flags' program', reply⟩ ∈ h) :
    interpreter = s.interpreter ∧ workdir = s.workdir ∧ flags' = flags ∧ program' = program
      ∧ ⟨.stage s.workdir program', .ok ()⟩ ∈ h := by
  cases ran with
  | unstaged cause => cases List.mem_singleton.mp given
  | unstarted cause =>
    rcases List.mem_pair.mp given with same | same <;> cases same
    exact ⟨rfl, rfl, rfl, rfl, List.mem_cons_self⟩
  | ended outcome =>
    rcases List.mem_pair.mp given with same | same <;> cases same
    exact ⟨rfl, rfl, rfl, rfl, List.mem_cons_self⟩

/-- A file that is read before changes nothing about a run of the interpreter. -/
theorem Ran.given_behind {flags flags' : List String}
    {program interpreter workdir program' path : String} {text : Except IoError String}
    {verdict : Except SandboxError Process.Outcome} (ran : Ran s flags program h verdict)
    {reply : Supply (.interpret interpreter workdir flags' program')}
    (given : ⟨.interpret interpreter workdir flags' program', reply⟩
      ∈ (⟨.read path, text⟩ : Exchange) :: h) :
    interpreter = s.interpreter ∧ workdir = s.workdir ∧ flags' = flags ∧ program' = program
      ∧ ⟨.stage s.workdir program', .ok ()⟩ ∈ (⟨.read path, text⟩ : Exchange) :: h := by
  rcases List.mem_cons.mp given with same | later
  · cases same
  · obtain ⟨same, same', flags, program, staged⟩ := ran.given later
    exact ⟨same, same', flags, program, List.mem_cons_of_mem _ staged⟩

/-- The interpreter is given nothing but the program with what the call would add, which has been
staged before, and only what it has to be given. -/
theorem Act.Makes.given {act : Act} {result : Except SandboxError Unit}
    (makes : act.Makes s h result after) {interpreter workdir program : String}
    {flags : List String} {reply : Supply (.interpret interpreter workdir flags program)}
    (given : ⟨.interpret interpreter workdir flags program, reply⟩ ∈ h) :
    interpreter = s.interpreter ∧ workdir = s.workdir ∧ flags = act.flags
      ∧ program = s.program ++ act.candidate h
      ∧ ⟨.stage s.workdir program, .ok ()⟩ ∈ h := by
  cases makes with
  | misnamed invalid => cases given
  | bound valid => cases given
  | unchecked ran => exact ran.given given
  | refused ran failed => exact ran.given given
  | checked ran succeeded => exact ran.given given
  | unread cause => cases List.mem_singleton.mp given
  | unrun text ran => exact ran.given_behind given
  | failed text ran failed => exact ran.given_behind given
  | succeeded text ran succeeded => exact ran.given_behind given

/-- A sandbox with the calls that it was made so far, and the state of what surrounds it. -/
structure Bench (σ : Type) where
  sandbox : Sandbox
  entries : List Entry
  state : σ

namespace Bench

variable {σ : Type} (supply : (n : Need) → σ → Supply n × σ)

/-- A new sandbox. -/
def create (interpreter workdir : String) (state : σ) : Bench σ :=
  ⟨.create interpreter workdir, [], state⟩

/-- Makes a call, and writes it down. -/
def perform (bench : Bench σ) (act : Act) : Except SandboxError Unit × Bench σ :=
  let call := act.call bench.sandbox
  let ((result, sandbox), state) := call.run supply bench.state
  (result, ⟨sandbox, bench.entries ++ [⟨act, call.history supply bench.state, result⟩], state⟩)

/-- Makes some calls, one after the other. -/
def performAll (bench : Bench σ) (acts : List Act) : Bench σ :=
  acts.foldl (fun bench act => (bench.perform supply act).2) bench

/-- Whether the program of a sandbox is the log of its calls, each of which was made of the log
before it. -/
structure Logged (interpreter workdir : String) (bench : Bench σ) : Prop where
  sandbox : bench.sandbox = ⟨interpreter, workdir, log bench.entries⟩
  makes : ∀ {i : Nat} {entry : Entry}, bench.entries[i]? = some entry →
    entry.act.Makes ⟨interpreter, workdir, log (bench.entries.take i)⟩ entry.exchanges entry.result
      ⟨interpreter, workdir, log (bench.entries.take (i + 1))⟩

theorem logged_create (interpreter workdir : String) (state : σ) :
    Logged interpreter workdir (create interpreter workdir state) where
  sandbox := rfl
  makes found := by cases found

variable {interpreter workdir : String} {bench : Bench σ}

/-- A call that is made of the log keeps the log. -/
theorem Logged.append (logged : Logged interpreter workdir bench) {entry : Entry}
    {after : Sandbox}
    (makes : entry.act.Makes bench.sandbox entry.exchanges entry.result after) (state : σ) :
    Logged interpreter workdir ⟨after, bench.entries ++ [entry], state⟩ := by
  rw [logged.sandbox] at makes
  have after_eq : after = ⟨interpreter, workdir, log (bench.entries ++ [entry])⟩ := by
    rw [makes.after_eq, log_append]
    rfl
  refine ⟨after_eq, ?_⟩
  intro i other found
  rw [List.getElem?_append] at found
  split at found
  · next old =>
    rw [List.take_append_of_le_length (Nat.le_of_lt old), List.take_append_of_le_length old]
    exact logged.makes found
  · next new =>
    have last : i = bench.entries.length := by
      have inside := (List.getElem?_eq_some_iff.mp found).1
      rw [List.length_singleton] at inside
      omega
    subst last
    rw [Nat.sub_self] at found
    cases found
    have whole : (bench.entries ++ [entry]).take (bench.entries.length + 1)
        = bench.entries ++ [entry] := List.take_of_length_le (by simp)
    rw [List.take_left' rfl, whole, ← after_eq]
    exact makes

/-- Every call keeps the log. -/
theorem Logged.perform (logged : Logged interpreter workdir bench) (act : Act) :
    Logged interpreter workdir (bench.perform supply act).2 :=
  logged.append (act.makes (leads_history supply (act.call bench.sandbox) bench.state)) _

theorem Logged.performAll (logged : Logged interpreter workdir bench)
    (acts : List Act) : Logged interpreter workdir (bench.performAll supply acts) := by
  induction acts generalizing bench with
  | nil => exact logged
  | cons act acts ih => exact ih (logged.perform supply act)

theorem map_act_performAll (acts : List Act) :
    (bench.performAll supply acts).entries.map Entry.act
      = bench.entries.map Entry.act ++ acts := by
  induction acts generalizing bench with
  | nil => exact (List.append_nil _).symm
  | cons act acts ih =>
    have rest := @ih (bench.perform supply act).2
    rw [Bench.perform, List.map_append, List.append_assoc] at rest
    exact rest

end Bench

end BuildHook.Sandbox
