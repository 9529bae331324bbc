import BuildHook.Proofs.Build.Sample
import BuildHook.Proofs.Script.Log

/-!
# Scripts of a build in a sandbox

The scripts of a build are calls of one sandbox: four bindings, a wrapped definition that is
evaluated, and the runner script, which is loaded if the definition was added. So the interpreter is
started at most twice, and the log of the sandbox tells on what.

## Main results

`Bench.run_runScripts` says which calls are made, `Executed.startedTwice` how often the interpreter
is started. `Bench.program_logged` has both beside the log of all sequences of calls.
-/

namespace BuildHook.Sandbox

open Procedure

variable {s after : Sandbox} {h : List Exchange}

/-- The statements that bind what a script can see. -/
def boundText (context : ScriptContext) : String :=
  "var pushRecord = " ++ context.pushRecord.canonical.render ++ ";\n"
    ++ ("var sshKey = " ++ (Json.string context.sshKey).render ++ ";\n"
    ++ ("var configName = " ++ (Json.string context.configName).render ++ ";\n"
    ++ ("var eventName = " ++ (Json.string context.eventName).render ++ ";\n")))

/-- What the calls behind the bindings can come to: the definition is not added, or it is and the
runner script is loaded. -/
inductive Executed (s : Sandbox) (wrapped runner : String) :
    List Exchange → Except ScriptError Unit → Prop
  | malformed {h e after} : Act.Makes s (.evaluate wrapped) h (.error e) after →
      Executed s wrapped runner h (.error (.malformedDefinition e wrapped))
  | loaded {h checked h' result after} : Act.Makes s (.evaluate wrapped) h (.ok ()) checked →
      Act.Makes checked (.load runner) h' result after →
      Executed s wrapped runner (h ++ h') (result.mapError (.runner runner))

/-- The flags and the program with which the interpreter was to be started. -/
def Exchange.started? : Exchange → Option (List String × String)
  | ⟨.interpret _ _ flags program, _⟩ => some (flags, program)
  | _ => none

/-- Whether the interpreter was to be started at most twice: first to check a program, and then, if
that succeeded and the runner script could be read, on the program with the text of this script. -/
def StartedTwice (interpreter workdir program runner : String) (h : List Exchange) : Prop :=
  h.filterMap Exchange.started? = []
  ∨ h.filterMap Exchange.started? = [(["--check"], program)]
  ∨ ∃ text outcome, ⟨.interpret interpreter workdir ["--check"] program, .ok outcome⟩ ∈ h
    ∧ outcome.code = some 0 ∧ ⟨.read runner, .ok text⟩ ∈ h
    ∧ h.filterMap Exchange.started?
      = [(["--check"], program), ([], program ++ (text ++ "\n"))]

theorem Ran.started {flags : List String} {program : String}
    {verdict : Except SandboxError Process.Outcome} (ran : Ran s flags program h verdict) :
    (h.filterMap Exchange.started? = [] ∧ ∃ e, verdict = .error e)
    ∨ h.filterMap Exchange.started? = [(flags, program)] := by
  cases ran with
  | unstaged cause => exact .inl ⟨rfl, _, rfl⟩
  | unstarted cause => exact .inr rfl
  | ended outcome => exact .inr rfl

theorem Act.Makes.load_started {path : String} {result : Except SandboxError Unit}
    (makes : Act.Makes s (.load path) h result after) :
    h.filterMap Exchange.started? = []
    ∨ ∃ text, ⟨.read path, .ok text⟩ ∈ h
      ∧ h.filterMap Exchange.started? = [([], s.program ++ (text ++ "\n"))] := by
  cases makes with
  | unread cause => exact .inl rfl
  | unrun text ran =>
    exact ran.started.imp And.left fun started => ⟨text, List.mem_cons_self, started⟩
  | failed text ran failed =>
    exact ran.started.imp And.left fun started => ⟨text, List.mem_cons_self, started⟩
  | succeeded text ran succeeded =>
    exact ran.started.imp And.left fun started => ⟨text, List.mem_cons_self, started⟩

theorem Executed.startedTwice {wrapped runner : String} {result : Except ScriptError Unit}
    (executed : Executed s wrapped runner h result) :
    StartedTwice s.interpreter s.workdir (s.program ++ (wrapped ++ "\n")) runner h := by
  cases executed with
  | malformed makes =>
    cases makes with
    | unchecked ran => exact ran.started.imp And.left .inl
    | refused ran failed => exact ran.started.imp And.left .inl
  | @loaded h checked h' result after makes loads =>
    cases makes with
    | @checked _ _ outcome ran succeeded =>
      cases ran with
      | ended =>
        unfold StartedTwice
        right
        rw [List.filterMap_append]
        rcases loads.load_started with none_more | ⟨text, read, more⟩
        · rw [none_more]
          exact .inl rfl
        · rw [more]
          refine .inr ⟨text, outcome, ?_, ?_, List.mem_append_right _ read, rfl⟩
          · exact List.mem_append_left _ (List.mem_cons_of_mem _ List.mem_cons_self)
          · simpa [Process.Outcome.succeeded] using succeeded

namespace Bench

variable {σ : Type} (supply : (n : Need) → σ → Supply n × σ)

/-- Answers what the scripts of a build ask by calls of a sandbox, and leaves all else to others. -/
def answer (others : (r : Build.Request) → σ → Build.Reply r × σ) :
    (r : Build.Request) → Bench σ → Build.Reply r × Bench σ
  | .bind name value, bench => bench.perform supply (.bind name value)
  | .evaluate source, bench => bench.perform supply (.evaluate source)
  | .load path, bench => bench.perform supply (.load path)
  | r, bench =>
    let (reply, state) := others r bench.state
    (reply, { bench with state })

/-- What the sandbox needed in all its calls. -/
def exchanges (bench : Bench σ) : List Exchange := bench.entries.flatMap Entry.exchanges

variable (others : (r : Build.Request) → σ → Build.Reply r × σ)

/-- An attempt in two parts goes on with the second if the first succeeds. -/
theorem run_bind {ε α β : Type} (x : Build.Attempt ε α) (f : α → Build.Attempt ε β)
    (bench : Bench σ) :
    (x >>= f).run.run (answer supply others) bench
      = match x.run.run (answer supply others) bench with
        | (.ok a, bench) => (f a).run.run (answer supply others) bench
        | (.error e, bench) => (.error e, bench) := by
  refine (run_andThen (answer supply others) x.run _ bench).trans ?_
  cases x.run.run (answer supply others) bench with
  | mk result bench => cases result <;> rfl

/-- A checked answer is put into its context. -/
theorem run_check {ε δ α : Type} (steps : Build.Steps (Except δ α)) (context : δ → ε)
    (bench : Bench σ) :
    (Build.check steps context).run.run (answer supply others) bench
      = ((steps.run (answer supply others) bench).1.mapError context,
        (steps.run (answer supply others) bench).2) :=
  run_andThen (answer supply others) steps _ bench

theorem perform_bind {name : String} (valid : IsIdentifier name) (value : Json)
    (bench : Bench σ) :
    bench.perform supply (.bind name value)
      = (.ok (), ⟨bench.sandbox.extend (binding name value),
        bench.entries ++ [⟨.bind name value, [], .ok ()⟩], bench.state⟩) := by
  have bound : bench.sandbox.bind name value
      = (.ok (), bench.sandbox.extend (binding name value)) := by
    rw [bind_eq, bindResult, if_pos valid, if_pos valid]
  simp only [perform, Act.call, bound]
  rfl

/-- The calls that bind some values. -/
def binds (bindings : List (String × Json)) : List Act :=
  bindings.map fun (name, value) => .bind name value

/-- Names of identifiers are bound, whatever the values are. -/
theorem performAll_binds {bindings : List (String × Json)}
    (named : ∀ binding ∈ bindings, IsIdentifier binding.1) (bench : Bench σ) :
    bench.performAll supply (binds bindings)
      = ⟨bench.sandbox.extend (String.ofList (lines bindings)),
        bench.entries ++ (binds bindings).map fun act => ⟨act, [], .ok ()⟩, bench.state⟩ := by
  induction bindings generalizing bench with
  | nil =>
    have same : bench.sandbox.extend (String.ofList (lines [])) = bench.sandbox := extend_empty _
    rw [same, binds, List.map_nil, List.map_nil, List.append_nil]
    rfl
  | cons binding bindings ih =>
    obtain ⟨name, value⟩ := binding
    obtain ⟨here, later⟩ := List.forall_mem_cons.mp named
    change ((bench.perform supply (.bind name value)).2).performAll supply (binds bindings) = _
    rw [perform_bind supply here, ih later, extend_lines_cons, List.append_assoc]
    rfl

theorem run_bindAll {bindings : List (String × Json)}
    (named : ∀ binding ∈ bindings, IsIdentifier binding.1) (bench : Bench σ) :
    (Build.bindAll bindings).run.run (answer supply others) bench
      = (.ok (), bench.performAll supply (binds bindings)) := by
  induction bindings generalizing bench with
  | nil => rfl
  | cons binding bindings ih =>
    obtain ⟨name, value⟩ := binding
    obtain ⟨here, later⟩ := List.forall_mem_cons.mp named
    have first : (Build.check (Build.request (.bind name value))
        ScriptError.bootstrap).run.run (answer supply others) bench
        = (.ok (), (bench.perform supply (.bind name value)).2) := by
      refine (run_check supply others _ _ bench).trans ?_
      change ((bench.perform supply (.bind name value)).1.mapError _,
        (bench.perform supply (.bind name value)).2) = _
      rw [perform_bind supply here]
      rfl
    rw [Build.bindAll, run_bind, first]
    exact ih later _

theorem isIdentifier_bindings (context : ScriptContext) :
    ∀ binding ∈ context.bindings, IsIdentifier binding.1 := by
  simp only [ScriptContext.bindings, List.forall_mem_cons]
  exact ⟨by decide, by decide, by decide, by decide, List.forall_mem_nil _⟩

theorem binding_eq {name front : String} (text : "var " ++ name ++ " = " = front) (value : Json) :
    binding name value = front ++ value.canonical.render ++ ";\n" := by
  rw [binding, text]

theorem lines_bindings (context : ScriptContext) :
    String.ofList (lines context.bindings) = boundText context := by
  have push : "var " ++ "pushRecord" ++ " = " = "var pushRecord = " := by decide
  have key : "var " ++ "sshKey" ++ " = " = "var sshKey = " := by decide
  have config : "var " ++ "configName" ++ " = " = "var configName = " := by decide
  have event : "var " ++ "eventName" ++ " = " = "var eventName = " := by decide
  have last (value : Json) : String.ofList (lines [("eventName", value)])
      = binding "eventName" value := by
    rw [← String.toList_inj, toList_binding, String.toList_ofList, lines_cons]
    rfl
  rw [ScriptContext.bindings, ofList_lines_cons, ofList_lines_cons, ofList_lines_cons, last,
    binding_eq push, binding_eq key, binding_eq config, binding_eq event]
  rfl

/-- Behind the bindings a definition is evaluated, and then the runner script is loaded. -/
theorem run_runScripts (context : ScriptContext) (definition runner : String) (bench : Bench σ) :
    (Build.runScripts context definition runner).run.run (answer supply others) bench
      = let bound := bench.performAll supply (binds context.bindings)
        let (checked, evaluated) := bound.perform supply (.evaluate (wrapDefinition definition))
        match checked with
        | .error e => (.error (.malformedDefinition e (wrapDefinition definition)), evaluated)
        | .ok () =>
          let (result, loaded) := evaluated.perform supply (.load runner)
          (result.mapError (.runner runner), loaded) := by
  rw [Build.runScripts, run_bind, run_bindAll supply others (isIdentifier_bindings context)]
  dsimp only
  generalize bench.performAll supply (binds context.bindings) = bound
  have evaluates : (Build.check (Build.request (.evaluate (wrapDefinition definition)))
      fun cause => ScriptError.malformedDefinition cause (wrapDefinition definition)).run.run
        (answer supply others) bound
      = ((bound.perform supply (.evaluate (wrapDefinition definition))).1.mapError
          fun cause => .malformedDefinition cause (wrapDefinition definition),
        (bound.perform supply (.evaluate (wrapDefinition definition))).2) :=
    run_check supply others _ _ bound
  rw [run_bind, evaluates]
  cases bound.perform supply (.evaluate (wrapDefinition definition)) with
  | mk checked evaluated =>
    cases checked with
    | error e => rfl
    | ok done => exact run_check supply others _ _ _

/-- What the calls of a sandbox needed beyond those before them. -/
theorem exchanges_perform (bench : Bench σ) (act : Act) :
    ∃ h, (bench.perform supply act).2.exchanges = bench.exchanges ++ h
      ∧ act.Makes bench.sandbox h (bench.perform supply act).1
        (bench.perform supply act).2.sandbox := by
  refine ⟨(act.call bench.sandbox).history supply bench.state, ?_, ?_⟩
  · simp [exchanges, perform]
  · exact act.makes (leads_history supply (act.call bench.sandbox) bench.state)

/-- The bindings of a context need nothing, and leave their statements. -/
theorem performAll_bindings (context : ScriptContext) (interpreter workdir : String) (state : σ) :
    ∃ bench : Bench σ, performAll supply (create interpreter workdir state)
        (binds context.bindings) = bench
      ∧ bench.sandbox = ⟨interpreter, workdir, boundText context⟩ ∧ bench.exchanges = [] := by
  refine ⟨_, performAll_binds supply (isIdentifier_bindings context) _, ?_, ?_⟩
  · rw [lines_bindings]
    show (⟨interpreter, workdir, "" ++ boundText context⟩ : Sandbox) = _
    rw [String.empty_append]
  · rw [exchanges, create, List.nil_append, List.flatMap_map]
    exact List.flatMap_eq_nil_iff.mpr fun _ _ => rfl

/-- The scripts of a build are calls of its sandbox. -/
theorem executed_runScripts (context : ScriptContext) (definition runner : String)
    (interpreter workdir : String) (state : σ) :
    let ran := (Build.runScripts context definition runner).run.run (answer supply others)
      (create interpreter workdir state)
    Logged interpreter workdir ran.2
    ∧ Executed ⟨interpreter, workdir, boundText context⟩ (wrapDefinition definition) runner
      ran.2.exchanges ran.1 := by
  have logged := (logged_create interpreter workdir state).performAll supply
    (binds context.bindings)
  obtain ⟨bound, same, sandbox, silent⟩ :=
    performAll_bindings supply context interpreter workdir state
  dsimp only
  rw [run_runScripts]
  rw [same] at logged ⊢
  have evaluated := logged.perform supply (.evaluate (wrapDefinition definition))
  obtain ⟨h, needs, checks⟩ :=
    exchanges_perform supply bound (.evaluate (wrapDefinition definition))
  rw [silent, List.nil_append] at needs
  rw [sandbox] at checks
  dsimp only
  cases made : bound.perform supply (.evaluate (wrapDefinition definition)) with
  | mk checked after =>
    rw [made] at evaluated needs checks
    subst needs
    cases checked with
    | error e => exact ⟨evaluated, .malformed checks⟩
    | ok done =>
      obtain ⟨h', needs', loads⟩ := exchanges_perform supply after (.load runner)
      refine ⟨evaluated.perform supply (.load runner), ?_⟩
      rw [needs']
      exact .loaded checks loads

/-- Whatever a sandbox is supplied with, its program is the log of its calls, and its interpreter is
given the log before a call with what this call would add. The scripts of a build are such calls:
the interpreter is started at most twice, to check the bindings with the wrapped definition, and to
run them with the runner script. -/
theorem program_logged (interpreter workdir : String) (state : σ) :
    (∀ acts,
      let bench := performAll supply (create interpreter workdir state) acts
      bench.entries.map Entry.act = acts
      ∧ bench.sandbox.program = log bench.entries
      ∧ Logged interpreter workdir bench
      ∧ ∀ {i : Nat} {entry : Entry}, bench.entries[i]? = some entry →
        entry.IsGiven interpreter workdir (log (bench.entries.take i)))
    ∧ ∀ context definition runner,
      let ran := (Build.runScripts context definition runner).run.run (answer supply others)
        (create interpreter workdir state)
      Logged interpreter workdir ran.2
      ∧ Executed ⟨interpreter, workdir, boundText context⟩ (wrapDefinition definition) runner
        ran.2.exchanges ran.1
      ∧ StartedTwice interpreter workdir
        (boundText context ++ (wrapDefinition definition ++ "\n")) runner ran.2.exchanges := by
  constructor
  · intro acts
    have logged := (logged_create interpreter workdir state).performAll supply acts
    refine ⟨map_act_performAll supply acts, by rw [logged.sandbox], logged, ?_⟩
    intro i entry found interpreter' workdir' flags program reply
    exact (logged.makes found).given
  · intro context definition runner
    obtain ⟨logged, executed⟩ :=
      executed_runScripts supply others context definition runner interpreter workdir state
    exact ⟨logged, executed, executed.startedTwice⟩

end Bench

namespace Sample

/-- A supply of programs that are well formed, but fail when they are run. -/
def supply : (n : Need) → Nat → Supply n × Nat
  | .read _, n => (.ok "go();", n + 1)
  | .stage .., n => (.ok (), n + 1)
  | .interpret _ _ flags _, n => (.ok ⟨some (if flags = [] then 1 else 0), [], []⟩, n + 1)

def context : ScriptContext := ⟨.null, "k", "a_b", "push"⟩

/-- The scripts of a build with this supply. -/
def ran : Except ScriptError Unit × Bench Nat :=
  (Build.runScripts context "on();" "r.js").run.run
    (Bench.answer supply Build.Sample.answer) (Bench.create "node" "w" 0)

end Sample

/-- The runner script fails, and stays in the program. -/
theorem Bench.program_logged_failed_run :
    StartedTwice "node" "w" (boundText Sample.context ++ (wrapDefinition "on();" ++ "\n")) "r.js"
      Sample.ran.2.exchanges
    ∧ Sample.ran.2.exchanges.filterMap Exchange.started?
      = [(["--check"], "var pushRecord = null;\nvar sshKey = \"k\";\nvar configName = \"a_b\";\n"
      ++ "var eventName = \"push\";\nvar registerEvents = function(events) \x7b\non();\n\x7d;\n"),
        ([], Sample.ran.2.sandbox.program)] :=
  ⟨((Bench.program_logged Sample.supply Build.Sample.answer "node" "w" 0).2
    Sample.context "on();" "r.js").2.2, by decide +kernel⟩

end BuildHook.Sandbox
